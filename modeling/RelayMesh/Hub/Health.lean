import RelayMesh.Hub.Basic
import RelayMesh.Time.Timestamp

/-!
# Silent nodes

A node that has not reported for the time that the policy allows is taken out
of its room.  `Hub.cutoff` is the point in time that tells silent nodes from
the others; it lies in the past by three report intervals.  An interval so
long that the clock cannot count back that far evicts nobody, and one that
leads before the first date of the calendar is a failure of the clock.
-/

namespace RelayMesh

/-- Why no point in time could be computed. -/
inductive ClockError where
  /-- The span does not fit in 64 bits of seconds. -/
  | spanTooLong
  /-- The point lies before the first date of the calendar. -/
  | beforeCalendar
deriving Repr, DecidableEq

/-- The longest span that can be subtracted from a point in time. -/
def longestWindow : Span := Span.ofMillis (Nat.pow 2 63 - 1)

/-- The first point in time of the calendar. -/
def firstInstant : Instant :=
  (Date.mk (-262143) 1 1).dayNumber * 86400000000000

/-- What an eviction did: the rooms that lost a node, the links of the evicted nodes, and the hub
afterwards. -/
structure Eviction (α : Type) where
  rooms : List String
  links : List String
  hub : Hub α

namespace Room

variable {α : Type}

/-- The nodes that last reported before a point in time. -/
def silentSince (room : Room α) (cutoff : Instant) : List String :=
  (room.nodes.filter (fun _ node => node.lastReport < cutoff)).keys

end Room

namespace Hub

variable {α : Type} [Scalar α]

/-- The point in time before which a last report is too old; `none` when no report is. -/
def cutoff (hub : Hub α) (now : Instant) : Except ClockError (Option Instant) :=
  match hub.policy.staleAfter with
  | none => .error .spanTooLong
  | some window =>
    if longestWindow < window then .ok none
    else
      let point := now - (window : Int)
      if point < firstInstant then .error .beforeCalendar else .ok (some point)

/-- The nodes that last reported before a point in time, with their rooms. -/
def silentSince (hub : Hub α) (cutoff : Instant) : List (String × String) :=
  hub.rooms.entries.flatMap (fun entry =>
    (entry.2.silentSince cutoff).map (fun node => (entry.1, node)))

/-- Takes nodes out of their rooms one after the other, and collects their links. -/
def leaveAll (hub : Hub α) (nodes : List (String × String)) : List String × Hub α :=
  nodes.foldl (fun (links, hub) (room, node) =>
    match hub.leave room node with
    | .ok (link, hub) => (links ++ link.toList, hub)
    | .error _ => (links, hub)) ([], hub)

/-- Takes the nodes out that last reported before a point in time. -/
def evictSilentSince (hub : Hub α) (cutoff : Instant) : Eviction α :=
  let (links, remaining) := hub.leaveAll (hub.silentSince cutoff)
  { rooms := (hub.rooms.filter (fun _ room => !(room.silentSince cutoff).isEmpty)).keys
    links
    hub := remaining }

/-- Takes the silent nodes out. -/
def evict (hub : Hub α) (now : Instant) : Except ClockError (Eviction α) :=
  (hub.cutoff now).map (fun cutoff =>
    match cutoff with
    | none => { rooms := [], links := [], hub }
    | some cutoff => hub.evictSilentSince cutoff)

/-- Decides about every node of some rooms; a room that is gone is skipped. -/
def rebalanceAll (hub : Hub α) (rooms : List String) : Hub α :=
  rooms.foldl (fun hub room =>
    match hub.rebalance room with
    | .ok (_, hub) => hub
    | .error _ => hub) hub

/-- One round of the watch over the nodes: the silent ones are taken out, and the rooms that lost
a node are decided about anew. -/
def watch (hub : Hub α) (now : Instant) : Except ClockError (Eviction α) :=
  (hub.evict now).map (fun eviction =>
    { eviction with hub := eviction.hub.rebalanceAll eviction.rooms })

end Hub

end RelayMesh
