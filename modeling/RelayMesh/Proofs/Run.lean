import Mathlib.Data.List.Induction

/-!
# Runs of a state machine

A run folds the step function of a machine over a list of events, and the
states on its way are those after the prefixes of the list.  `always_iff` is
for a property that some steps break: it holds in every state of a run
exactly when the run takes no step that breaks it.
-/

namespace RelayMesh.Run

variable {σ ε : Type} {step : σ → ε → σ} {start : σ} {events : List ε}

/-- An invariant that every step of a run keeps holds in every state of the run. -/
theorem always {Inv : σ → Prop} (hstart : Inv start)
    (hstep : ∀ done event, done ++ [event] <+: events → Inv (done.foldl step start) →
      Inv (step (done.foldl step start) event)) :
    ∀ done, done <+: events → Inv (done.foldl step start) := by
  intro done hdone
  induction done using List.reverseRecOn with
  | nil => exact hstart
  | append_singleton done event ih =>
    rw [List.foldl_append]
    exact hstep done event hdone (ih ((List.prefix_append done [event]).trans hdone))

/-- The property `Good` holds in every state of a run exactly when no step of the run is `Harmful`,
if that is what decides about each step from a good state that satisfies the invariant. -/
theorem always_iff {Inv Good : σ → Prop} (Harmful : σ → ε → Prop) (hinv : Inv start)
    (hgood : Good start)
    (hstep : ∀ done event, done ++ [event] <+: events → Inv (done.foldl step start) →
      Inv (step (done.foldl step start) event) ∧
        (Good (done.foldl step start) →
          (Good (step (done.foldl step start) event) ↔
            ¬Harmful (done.foldl step start) event))) :
    (∀ done, done <+: events → Good (done.foldl step start)) ↔
      ∀ done event, done ++ [event] <+: events → ¬Harmful (done.foldl step start) event := by
  have halways := always hinv fun done event hdone h => (hstep done event hdone h).1
  constructor
  · intro hall done event hdone
    have hbefore := (List.prefix_append done [event]).trans hdone
    have hafter := hall (done ++ [event]) hdone
    rw [List.foldl_append] at hafter
    exact ((hstep done event hdone (halways done hbefore)).2 (hall done hbefore)).1 hafter
  · intro hharmless
    refine always hgood fun done event hdone h => ?_
    have hbefore := (List.prefix_append done [event]).trans hdone
    exact ((hstep done event hdone (halways done hbefore)).2 h).2 (hharmless done event hdone)

end RelayMesh.Run
