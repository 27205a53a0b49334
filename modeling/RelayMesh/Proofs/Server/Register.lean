import RelayMesh.Proofs.Run
import RelayMesh.Proofs.Server.Roll

/-!
# The register of sessions

A session is listed from the first step of its start until it finishes.  A
start that fails has listed its session by then, but there is no session that
could finish, so the entry stays (`stranded_attend_iff`).

`register_exact_along_run_iff` is the result for whole runs, in which the media
engine may change from event to event: the listed sessions are the live ones as
long as no start fails, and each failed start strands its entry.
-/

namespace RelayMesh

namespace Server

variable {server : Server} {id : String}

/-! ## The register along a run -/

/-- Every live session is listed. -/
def ListsLive (server : Server) : Prop :=
  ∀ id, server.isLive id = true → server.isListed id = true

/-- The listed sessions are the live ones. -/
def RegisterExact (server : Server) : Prop :=
  ∀ id, server.isListed id = true ↔ server.isLive id = true

/-- A session is listed that has not started, or has finished. -/
def Stranded (server : Server) (id : String) : Prop :=
  server.isListed id = true ∧ server.isLive id = false

theorem ListsLive.attend (h : server.ListsLive) (event : ServerEvent) :
    (server.attend event).ListsLive := by
  intro id hlive
  refine ((server.enrolls_attend event).listed id).2 ?_
  obtain hstarts | ⟨hlive, hkept⟩ := ((server.enrolls_attend event).live id).1 hlive
  · exact .inl ⟨false, hstarts⟩
  · exact .inr ⟨h id hlive, hkept⟩

/-- An entry is stranded by a failed start, and stays until a session of that identifier starts. -/
theorem stranded_attend_iff (event : ServerEvent) :
    (server.attend event).Stranded id ↔
      server.Starts event id true ∨ server.Stranded id ∧ ¬server.Starts event id false := by
  have henrolls := server.enrolls_attend event
  rw [Stranded, Stranded, ← Bool.not_eq_true, ← Bool.not_eq_true, henrolls.listed, henrolls.live]
  constructor
  · rintro ⟨⟨failed, hstarts⟩ | ⟨hlisted, hkept⟩, hnot⟩
    · cases failed with
      | true => exact .inl hstarts
      | false => exact absurd (.inl hstarts) hnot
    · exact .inr ⟨⟨hlisted, fun hlive => hnot (.inr ⟨hlive, hkept⟩)⟩, fun h => hnot (.inl h)⟩
  · rintro (hstarts | ⟨⟨hlisted, hgone⟩, hnot⟩)
    · refine ⟨.inl ⟨true, hstarts⟩, ?_⟩
      rintro (hopens | ⟨hlive, -⟩)
      · exact nomatch hstarts.unique hopens
      · obtain ⟨_, -, hgone, -⟩ := hstarts
        rw [hlive] at hgone
        exact nomatch hgone
    · refine ⟨.inr ⟨hlisted, fun hfinishes => hgone hfinishes.2⟩, ?_⟩
      rintro (hopens | ⟨hlive, -⟩)
      · exact hnot hopens
      · exact hgone hlive

theorem registerExact_iff :
    server.RegisterExact ↔ server.ListsLive ∧ ∀ id, ¬server.Stranded id := by
  constructor
  · intro h
    refine ⟨fun id => (h id).2, ?_⟩
    rintro id ⟨hlisted, hgone⟩
    rw [(h id).1 hlisted] at hgone
    exact nomatch hgone
  · rintro ⟨hlists, hnone⟩ id
    refine ⟨fun hlisted => ?_, hlists id⟩
    by_contra hgone
    exact hnone id ⟨hlisted, Bool.not_eq_true _ ▸ hgone⟩

/-- The server with another media engine. -/
def equipped (server : Server) (engine : MediaEngine) : Server :=
  { server with engine }

/-- Handles an event with the media engine as it is then. -/
def attendWith (server : Server) (event : MediaEngine × ServerEvent) : Server :=
  (server.equipped event.1).attend event.2

/-- Handles events one after the other, each with the media engine as it is then. -/
def attendAllWith (server : Server) (events : List (MediaEngine × ServerEvent)) : Server :=
  events.foldl attendWith server

theorem ListsLive.attendWith (h : server.ListsLive) (event : MediaEngine × ServerEvent) :
    (server.attendWith event).ListsLive := by
  have hequipped : (server.equipped event.1).ListsLive := h
  exact hequipped.attend event.2

theorem attendWith_registerExact_iff (hlists : server.ListsLive) (hexact : server.RegisterExact)
    (event : MediaEngine × ServerEvent) :
    (server.attendWith event).RegisterExact ↔
      ¬∃ id, (server.equipped event.1).Starts event.2 id true := by
  have hnone : ∀ id, ¬(server.equipped event.1).Stranded id := (registerExact_iff.1 hexact).2
  rw [registerExact_iff, and_iff_right (hlists.attendWith event), ← not_exists, attendWith]
  simp only [stranded_attend_iff, hnone, false_and, or_false]

/-- The listed sessions are the live ones in every state of a run, exactly when no start fails on
the way.  Every live session is listed in any case, and a failed start strands the entry of its
session, which stays whatever happens, unless a session of the same identifier starts. -/
theorem register_exact_along_run_iff (engine : MediaEngine) (options : LinkOptions)
    (policy : Policy Float) (events : List (MediaEngine × ServerEvent)) :
    ((∀ done, done <+: events → ((new engine options policy).attendAllWith done).RegisterExact) ↔
        ∀ done event, done ++ [event] <+: events → ¬∃ id,
          (((new engine options policy).attendAllWith done).equipped event.1).Starts
            event.2 id true) ∧
      (∀ done, done <+: events → ∀ id,
        ((new engine options policy).attendAllWith done).isLive id = true →
          ((new engine options policy).attendAllWith done).isListed id = true) ∧
      ∀ done event id, done ++ [event] <+: events →
        (((new engine options policy).attendAllWith (done ++ [event])).Stranded id ↔
          (((new engine options policy).attendAllWith done).equipped event.1).Starts
              event.2 id true ∨
            ((new engine options policy).attendAllWith done).Stranded id ∧
              ¬(((new engine options policy).attendAllWith done).equipped event.1).Starts
                event.2 id false) := by
  have hnew : (new engine options policy).ListsLive := fun _ h => nomatch h
  have hexact : (new engine options policy).RegisterExact := fun _ => Iff.rfl
  refine ⟨?_, ?_, ?_⟩
  · refine Run.always_iff
      (fun (server : Server) (event : MediaEngine × ServerEvent) =>
        ∃ id, (server.equipped event.1).Starts event.2 id true)
      hnew hexact fun done event _ hlists => ?_
    exact ⟨hlists.attendWith event, fun h => attendWith_registerExact_iff hlists h event⟩
  · exact Run.always hnew fun done event _ hlists => hlists.attendWith event
  · intro done event id _
    rw [attendAllWith, List.foldl_concat]
    exact stranded_attend_iff event.2

/-- The options of a server whose links would relay over a server without a credential. -/
def unusable : LinkOptions :=
  { iceServers := [{ urls := ["turn:h"] }] }

/-- The session that cannot be started is listed all the same. -/
theorem entry_stranded_by_unusable :
    ¬∀ done, done <+: [(MediaEngine.onHost Host.isolated, .session (.start "a" true))] →
      ((new (MediaEngine.onHost Host.isolated) unusable Policy.standard).attendAllWith
        done).RegisterExact := by
  rw [(register_exact_along_run_iff _ _ _ _).1]
  intro hnone
  refine hnone [] _ List.prefix_rfl ⟨"a", true, rfl, rfl, ?_⟩
  decide +kernel

end Server

end RelayMesh
