import Mathlib.Data.List.Chain
import Mathlib.Data.List.DropRight
import RelayMesh.Session.Lifecycle

/-!
# The log of moves tells the states

A lifecycle keeps the states of the sessions and, apart from them, the log of
the accepted moves.  Nothing but its operations ties the two together, and a
removal takes the state away without a word in the log.

`Lifecycle.Call` names the operations and `Lifecycle.emits` says what a call
adds to the log.  `Lifecycle.recent` cuts out of the log what concerns one
session since it was last removed, and `Traces` says what it is for such a
piece of the log to lead to a state.

* `recent_concat` is how a call changes that piece: it grows by what the call
  emits for the session, and a removal of the session makes it start anew.
* `Traces.concat` extends a trace by a move that the states allow.
* `recent_traces_states` is the result for whole runs.
-/

namespace RelayMesh

/-- The moves of a session lead from its first state to a state, or there are none and it has no
state. -/
structure Traces (changes : List StateChange) (state : Option SessionState) : Prop where
  begins : ∀ change ∈ changes.head?, change.origin = none ∧ change.target = .new
  linked : changes.IsChain (fun earlier later => later.origin = some earlier.target)
  /-- No move leaves the last state. -/
  final : ∀ change ∈ changes, change.origin ≠ some .closed
  connects : ∀ change ∈ changes, change.target = .connected → change.origin = some .negotiating
  ends : changes.getLast?.map StateChange.target = state

theorem traces_nil : Traces [] none where
  begins _ h := nomatch h
  linked := List.isChain_nil
  final _ h := nomatch h
  connects _ h := nomatch h
  ends := rfl

namespace SessionState

variable {next : SessionState} {current : Option SessionState}

theorem eq_new_of_follows (h : next.follows none = true) : next = .new := by
  cases next with
  | new => rfl
  | _ => exact nomatch h

theorem ne_closed_of_follows (h : next.follows current = true) : current ≠ some .closed := by
  rintro rfl
  cases next <;> exact nomatch h

theorem eq_negotiating_of_follows (h : connected.follows current = true) :
    current = some .negotiating := by
  cases current with
  | none => exact nomatch h
  | some state =>
    cases state with
    | negotiating => rfl
    | _ => exact nomatch h

end SessionState

/-- A trace goes on with a move that its last state allows. -/
theorem Traces.concat {changes : List StateChange} {state : Option SessionState}
    (h : Traces changes state) {target : SessionState} (hfollows : target.follows state = true)
    (session : String) : Traces (changes ++ [⟨session, state, target⟩]) (some target) where
  begins := by
    intro change hchange
    cases changes with
    | nil =>
      -- an empty trace leads to no state, so this move is the first one
      have hnone : none = state := h.ends
      rw [← hnone] at hfollows hchange
      rw [← Option.some.inj hchange]
      exact ⟨rfl, SessionState.eq_new_of_follows hfollows⟩
    | cons head rest => exact h.begins change hchange
  linked := by
    refine h.linked.append (List.isChain_singleton _) fun last hlast next hnext => ?_
    have hends := h.ends
    rw [Option.mem_def.1 hlast] at hends
    rw [← Option.some.inj hnext]
    exact hends.symm
  final := by
    refine List.forall_mem_append.2 ⟨h.final, List.forall_mem_singleton.2 ?_⟩
    exact SessionState.ne_closed_of_follows hfollows
  connects := by
    refine List.forall_mem_append.2 ⟨h.connects, List.forall_mem_singleton.2 fun heq => ?_⟩
    have htarget : target = .connected := heq
    rw [htarget] at hfollows
    exact SessionState.eq_negotiating_of_follows hfollows
  ends := by
    rw [List.getLast?_concat]
    rfl

namespace Lifecycle

variable {lifecycle : Lifecycle} {id : String}

/-! ## Calls -/

/-- What a lifecycle may be asked for. -/
inductive Call where
  | transition (session : String) (target : SessionState)
  | remove (session : String)
deriving Repr, DecidableEq

/-- The session that a call is about. -/
def Call.session : Call → String
  | .transition session _ => session
  | .remove session => session

/-- Carries out a call. -/
def step (lifecycle : Lifecycle) : Call → Lifecycle
  | .transition session target => lifecycle.move session target
  | .remove session => lifecycle.remove session

/-- Carries out calls one after the other, on a lifecycle without sessions. -/
def run (calls : List Call) : Lifecycle :=
  calls.foldl step {}

/-- What a call adds to the log. -/
def emits (lifecycle : Lifecycle) : Call → List StateChange
  | .transition session target =>
    if target.follows (lifecycle.states.get? session) then
      [⟨session, lifecycle.states.get? session, target⟩]
    else []
  | .remove _ => []

theorem run_concat (calls : List Call) (call : Call) :
    run (calls ++ [call]) = (run calls).step call := by
  rw [run, List.foldl_append]
  rfl

/-- An accepted move is logged and its target is the new state. -/
theorem transition_of_follows {target : SessionState}
    (h : target.follows (lifecycle.states.get? id) = true) :
    lifecycle.transition id target =
      (true,
        { states := lifecycle.states.insert id target
          log := lifecycle.log ++ [⟨id, lifecycle.states.get? id, target⟩] }) :=
  if_pos h

/-- A rejected move changes nothing. -/
theorem transition_of_not_follows {target : SessionState}
    (h : ¬target.follows (lifecycle.states.get? id) = true) :
    lifecycle.transition id target = (false, lifecycle) :=
  if_neg h

theorem transition_accepts_iff {target : SessionState} :
    (lifecycle.transition id target).1 = true ↔
      target.follows (lifecycle.states.get? id) = true := by
  by_cases h : target.follows (lifecycle.states.get? id) = true
  · simp [transition_of_follows h, h]
  · simp [transition_of_not_follows h, h]

theorem log_step (lifecycle : Lifecycle) (call : Call) :
    (lifecycle.step call).log = lifecycle.log ++ lifecycle.emits call := by
  cases call with
  | remove session => exact (List.append_nil _).symm
  | transition session target =>
    rw [step, move, emits]
    split
    · rename_i h
      rw [transition_of_follows h]
    · rename_i h
      rw [transition_of_not_follows h, List.append_nil]

/-- A call leaves the states of the other sessions as they are. -/
theorem get?_step_of_ne {call : Call} (h : call.session ≠ id) :
    (lifecycle.step call).states.get? id = lifecycle.states.get? id := by
  cases call with
  | remove session => exact (Table.get?_erase ..).trans (if_neg (Ne.symm h))
  | transition session target =>
    rw [step, move]
    by_cases hfollows : target.follows (lifecycle.states.get? session) = true
    · rw [transition_of_follows hfollows]
      exact (Table.get?_insert ..).trans (if_neg (Ne.symm h))
    · rw [transition_of_not_follows hfollows]

theorem session_of_mem_emits {call : Call} {change : StateChange}
    (h : change ∈ lifecycle.emits call) : change.session = call.session := by
  cases call with
  | remove session => exact nomatch h
  | transition session target =>
    rw [emits] at h
    split at h
    · rw [List.mem_singleton.1 h]
      rfl
    · exact nomatch h

/-! ## The log of one session since its removal -/

/-- The calls up to the last removal of a session. -/
def untilRemoval (id : String) (calls : List Call) : List Call :=
  calls.rdropWhile (fun call => call ≠ .remove id)

/-- What the log says of a session since its last removal, or since the start. -/
def recent (calls : List Call) (id : String) : List StateChange :=
  ((run calls).log.drop (run (untilRemoval id calls)).log.length).filter
    (fun change => change.session = id)

theorem untilRemoval_concat_self (calls : List Call) :
    untilRemoval id (calls ++ [.remove id]) = calls ++ [.remove id] :=
  List.rdropWhile_concat_neg _ _ _ (by simp)

theorem untilRemoval_concat_of_ne {call : Call} (h : call ≠ .remove id) (calls : List Call) :
    untilRemoval id (calls ++ [call]) = untilRemoval id calls :=
  List.rdropWhile_concat_pos _ _ _ (by simpa using h)

theorem log_prefix_run_append (calls later : List Call) :
    (run calls).log <+: (run (calls ++ later)).log := by
  induction later using List.reverseRecOn with
  | nil => simp
  | append_singleton later call ih =>
    rw [← List.append_assoc, run_concat, log_step]
    exact ih.trans (List.prefix_append _ _)

theorem length_log_untilRemoval_le (calls : List Call) (id : String) :
    (run (untilRemoval id calls)).log.length ≤ (run calls).log.length := by
  obtain ⟨later, hcalls⟩ := List.rdropWhile_prefix (fun call => call ≠ .remove id) (l := calls)
  have h := (log_prefix_run_append (untilRemoval id calls) later).length_le
  rw [untilRemoval, hcalls] at h
  exact h

/-- After the removal of a session the log has nothing to say of it. -/
theorem recent_concat_self (calls : List Call) : recent (calls ++ [.remove id]) id = [] := by
  rw [recent, untilRemoval_concat_self, List.drop_length, List.filter_nil]

/-- Any other call adds what it emits for the session. -/
theorem recent_concat {call : Call} (h : call ≠ .remove id) (calls : List Call) :
    recent (calls ++ [call]) id =
      recent calls id ++ ((run calls).emits call).filter (fun change => change.session = id) := by
  rw [recent, untilRemoval_concat_of_ne h, run_concat, log_step,
    List.drop_append_of_le_length (length_log_untilRemoval_le calls id), List.filter_append]
  rfl

/-- A call about another session adds nothing. -/
theorem recent_concat_of_ne {call : Call} (h : call.session ≠ id) (calls : List Call) :
    recent (calls ++ [call]) id = recent calls id := by
  have hcall : call ≠ .remove id := by
    rintro rfl
    exact h rfl
  have hnone : ((run calls).emits call).filter (fun change => change.session = id) = [] := by
    refine List.filter_eq_nil_iff.2 fun change hchange heq => h ?_
    rw [← session_of_mem_emits hchange]
    exact of_decide_eq_true heq
  rw [recent_concat hcall, hnone, List.append_nil]

/-! ## Runs -/

/-- The log of a session leads to its state.  The induction is on the calls from the last one, since
a removal cuts the log there. -/
theorem traces_recent (calls : List Call) (id : String) :
    Traces (recent calls id) ((run calls).states.get? id) := by
  induction calls using List.reverseRecOn with
  | nil => exact traces_nil
  | append_singleton calls call ih =>
    by_cases hsession : call.session = id
    · cases call with
      | remove session =>
        obtain rfl : session = id := hsession
        have hgone : (run (calls ++ [.remove session])).states.get? session = none := by
          rw [run_concat]
          exact (Table.get?_erase ..).trans (if_pos rfl)
        rw [recent_concat_self, hgone]
        exact traces_nil
      | transition session target =>
        obtain rfl : session = id := hsession
        have hother : Call.transition session target ≠ .remove session := by simp
        rw [recent_concat hother, run_concat, step, move, emits]
        by_cases hfollows : target.follows ((run calls).states.get? session) = true
        · rw [transition_of_follows hfollows, if_pos hfollows, Table.get?_insert, if_pos rfl]
          simpa using ih.concat hfollows session
        · rw [transition_of_not_follows hfollows, if_neg hfollows]
          simpa using ih
    · rw [recent_concat_of_ne hsession, run_concat, get?_step_of_ne hsession]
      exact ih

/-- After every run of moves and removals, what the log says of a session since its last removal
leads from its first state to its present one.  An accepted move is the next entry of the log, and a
rejected one leaves states and log as they are.  A removal leaves the log as it is.  No call bears
on another session. -/
theorem recent_traces_states (calls : List Call) (id : String) :
    Traces (recent calls id) ((run calls).states.get? id) ∧
      (∀ target, ((run calls).transition id target).1 = true →
        ((run calls).transition id target).2.log =
          (run calls).log ++ [⟨id, (run calls).states.get? id, target⟩]) ∧
      (∀ target, ((run calls).transition id target).1 = false →
        ((run calls).transition id target).2 = run calls) ∧
      ((run calls).remove id).log = (run calls).log ∧
      ∀ call, call.session ≠ id →
        (run (calls ++ [call])).states.get? id = (run calls).states.get? id ∧
          recent (calls ++ [call]) id = recent calls id := by
  refine ⟨traces_recent calls id, fun target haccepted => ?_, fun target hrejected => ?_, rfl,
    fun call hcall => ⟨?_, recent_concat_of_ne hcall calls⟩⟩
  · rw [transition_of_follows (transition_accepts_iff.1 haccepted)]
  · refine congrArg Prod.snd (transition_of_not_follows fun hfollows => ?_)
    rw [transition_accepts_iff.2 hfollows] at hrejected
    exact nomatch hrejected
  · rw [run_concat]
    exact get?_step_of_ne hcall

end Lifecycle

end RelayMesh
