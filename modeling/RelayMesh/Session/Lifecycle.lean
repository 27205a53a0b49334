import RelayMesh.Table

/-!
# The life of a session

Every session has a state, and `SessionState.follows` lists the moves between
the states.  A move that is not listed is rejected and changes nothing.

`Lifecycle` keeps the states of all sessions and a log of the accepted moves.
A subscriber has read the log up to some position; it is shown what came
after, but only the newest `Lifecycle.window` entries.
-/

namespace RelayMesh

/-- The state of a session. -/
inductive SessionState where
  | new
  | initialized
  | negotiating
  | connected
  | failed
  | closed
deriving Repr, DecidableEq, Inhabited

namespace SessionState

/-- The states. -/
def all : List SessionState := [new, initialized, negotiating, connected, failed, closed]

/-- The name of a state. -/
def name : SessionState → String
  | new => "new"
  | initialized => "initialized"
  | negotiating => "negotiating"
  | connected => "connected"
  | failed => "failed"
  | closed => "closed"

/-- Whether a state may follow another one, or none. -/
def follows (next : SessionState) (current : Option SessionState) : Bool :=
  match current, next with
  | none, new => true
  | none, _ => false
  | some closed, _ => false
  | some _, failed => true
  | some _, closed => true
  | some new, initialized => true
  | some initialized, negotiating => true
  | some negotiating, negotiating => true
  | some negotiating, connected => true
  | some connected, negotiating => true
  | some failed, negotiating => true
  | _, _ => false

end SessionState

/-- An accepted move of a session. -/
structure StateChange where
  session : String
  origin : Option SessionState
  target : SessionState
deriving Repr, DecidableEq

/-- The states of the sessions, and the accepted moves in order. -/
structure Lifecycle where
  states : Table SessionState := ∅
  log : List StateChange := []

/-- What is shown of the sessions as a whole. -/
structure LifecycleSummary where
  total : Nat
  connected : Nat
  failed : Nat
  /-- The share of connected sessions in percent; zero without sessions. -/
  successRate : Float
  /-- How many sessions are in each state that occurs. -/
  distribution : List (SessionState × Nat)
  sessions : Table SessionState

/-- What a subscriber is shown: how many moves it missed, and the moves after those. -/
structure Backlog where
  missed : Nat
  changes : List StateChange
deriving Repr, DecidableEq

namespace Lifecycle

/-- Moves a session to a state and says whether the move was accepted. -/
def transition (lifecycle : Lifecycle) (session : String) (target : SessionState) :
    Bool × Lifecycle :=
  let origin := lifecycle.states.get? session
  if target.follows origin then
    (true,
      { states := lifecycle.states.insert session target
        log := lifecycle.log ++ [⟨session, origin, target⟩] })
  else (false, lifecycle)

/-- The lifecycle after a move, accepted or not. -/
def move (lifecycle : Lifecycle) (session : String) (target : SessionState) : Lifecycle :=
  (lifecycle.transition session target).2

/-- Forgets a session. -/
def remove (lifecycle : Lifecycle) (session : String) : Lifecycle :=
  { lifecycle with states := lifecycle.states.erase session }

/-- How many moves a subscriber is shown at most. -/
def window : Nat := 128

/-- The moves after the first `position` ones, as a subscriber is shown them. -/
def backlog (lifecycle : Lifecycle) (position : Nat) : Backlog :=
  let unread := lifecycle.log.drop position
  let missed := unread.length - window
  ⟨missed, unread.drop missed⟩

/-- The number of sessions in a state. -/
def count (lifecycle : Lifecycle) (state : SessionState) : Nat :=
  lifecycle.states.values.count state

/-- What is shown of the sessions as a whole. -/
def summary (lifecycle : Lifecycle) : LifecycleSummary :=
  let total := lifecycle.states.size
  let connected := lifecycle.count .connected
  { total
    connected
    failed := lifecycle.count .failed
    successRate := if total = 0 then 0 else Float.ofNat connected / Float.ofNat total * 100
    distribution :=
      (SessionState.all.map (fun state => (state, lifecycle.count state))).filter
        (fun entry => 0 < entry.2)
    sessions := lifecycle.states }

end Lifecycle

end RelayMesh
