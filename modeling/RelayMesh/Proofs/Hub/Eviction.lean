import Mathlib.Data.List.Nodup
import RelayMesh.Proofs.Hub.Nodes
import RelayMesh.Proofs.Room.Clearance

/-!
# Evictions

An eviction first lists the silent nodes of all rooms, and then takes them out
one after the other.  Each of them takes its streams along, and the last one of
a room takes the room along, while the list still goes on.

* `get?_leaveAll` separates the rooms: what becomes of one of them depends on
  the nodes of the list that are in it (`Room.afterDepartures`).
* `Hub.Evicts` describes an eviction room by room, for any notion of which
  nodes are stale.
* `evicts_evictSilentSince` is the result.  The notion may be any one that
  agrees, on the nodes that are there, with the reports that the nodes keep.
-/

namespace RelayMesh

namespace Room

variable {α : Type} {room : Room α} {id : String} {ids : List String}

/-- What a hub keeps of a room after some of its nodes have left: nothing, if the last one has. -/
def afterDepartures (room : Room α) (ids : List String) : Option (Room α) :=
  if ids ≠ [] ∧ (room.withoutNodes ids).nodes.isEmpty = true then none
  else some (room.withoutNodes ids)

theorem afterDepartures_nil : room.afterDepartures [] = some room :=
  if_neg fun h => h.1 rfl

theorem afterDepartures_cons :
    room.afterDepartures (id :: ids) =
      if (room.withoutNode id).nodes.isEmpty = true ∧ ids = [] then none
      else (room.withoutNode id).afterDepartures ids := by
  have hfirst : room.withoutNodes (id :: ids) = (room.withoutNode id).withoutNodes ids := rfl
  rw [afterDepartures, hfirst]
  by_cases hids : ids = []
  · rw [hids, afterDepartures_nil]
    simp [withoutNodes]
  · simp [afterDepartures, hids]

theorem mem_silentSince {cutoff : Instant} :
    id ∈ room.silentSince cutoff ↔
      ∃ node, room.nodes.get? id = some node ∧ node.lastReport < cutoff := by
  rw [silentSince, Table.mem_keys]
  simp only [Table.get?_filter, Option.filter_eq_some_iff, decide_eq_true_eq]

theorem nodup_silentSince (room : Room α) (cutoff : Instant) :
    (room.silentSince cutoff).Nodup :=
  Table.nodup_keys _

end Room

namespace Hub

variable {α : Type} {hub : Hub α} {roomId : String} {room : Room α}
  {nodes : List (String × String)} {cutoff : Instant}

/-! ## Departures from several rooms -/

/-- The nodes of one room, among nodes with their rooms. -/
def ofRoom (nodes : List (String × String)) (roomId : String) : List String :=
  (nodes.filter (fun node => node.1 = roomId)).map Prod.snd

theorem mem_ofRoom {id : String} : id ∈ ofRoom nodes roomId ↔ (roomId, id) ∈ nodes := by
  simp [ofRoom]

theorem ofRoom_cons_self (id : String) :
    ofRoom ((roomId, id) :: nodes) roomId = id :: ofRoom nodes roomId := by
  simp [ofRoom]

theorem ofRoom_cons_of_ne {node : String × String} (h : roomId ≠ node.1) :
    ofRoom (node :: nodes) roomId = ofRoom nodes roomId := by
  simp [ofRoom, Ne.symm h]

/-- Nodes that are there leave one after the other.  The induction is over those that are still to
leave, because every departure has to leave the others in their places. -/
theorem get?_leaveAll (hnodup : nodes.Nodup)
    (hthere : ∀ node ∈ nodes, (hub.owner? node.1 node.2).isSome = true) (roomId : String) :
    (hub.leaveAll nodes).2.rooms.get? roomId =
      (hub.rooms.get? roomId).bind (fun room => room.afterDepartures (ofRoom nodes roomId)) := by
  rw [Hub.leaveAll]
  generalize ([] : List String) = links
  induction nodes generalizing hub links with
  | nil =>
    simp only [ofRoom, List.filter_nil, List.map_nil, Room.afterDepartures_nil]
    exact (Option.bind_fun_some _).symm
  | cons head rest ih =>
    obtain ⟨headRoom, headId⟩ := head
    obtain ⟨hnot, hrest⟩ := List.nodup_cons.1 hnodup
    have hhead : (hub.owner? headRoom headId).isSome = true := hthere _ List.mem_cons_self
    obtain ⟨owner, howner⟩ := Option.isSome_iff_exists.1 hhead
    obtain ⟨room, node, hroom, hnode, -⟩ := exists_of_owner? howner
    have hstay : ∀ other ∈ rest,
        (((hub.withRoom headRoom (room.withoutNode headId)).dropIfEmpty headRoom).owner?
          other.1 other.2).isSome = true := by
      intro other hother
      rw [owner?_departed hroom, if_neg]
      · exact hthere other (List.mem_cons_of_mem _ hother)
      · rintro ⟨hsameRoom, hsameId⟩
        have hsame : other = (headRoom, headId) := Prod.ext hsameRoom hsameId
        rw [hsame] at hother
        exact hnot hother
    rw [List.foldl_cons]
    dsimp only
    rw [leave_of_get? hroom hnode]
    dsimp only
    rw [ih hrest hstay]
    by_cases heq : roomId = headRoom
    · subst heq
      rw [get?_withRoom_dropIfEmpty, hroom, Option.bind_some, ofRoom_cons_self,
        Room.afterDepartures_cons]
      split
      · rename_i hempty
        -- nobody else of this room is on the list, because the room is gone
        have hnone : ofRoom rest roomId = [] := by
          refine List.eq_nil_iff_forall_not_mem.2 fun id hid => ?_
          have hplace := hstay (roomId, id) (mem_ofRoom.1 hid)
          rw [owner?, look, get?_withRoom_dropIfEmpty, if_pos hempty] at hplace
          cases hplace
        rw [if_pos ⟨hempty, hnone⟩]
        rfl
      · rename_i hoccupied
        rw [if_neg fun h => hoccupied h.1]
        rfl
    · rw [get?_withRoom_dropIfEmpty_of_ne heq, ofRoom_cons_of_ne heq]

/-! ## Silent nodes -/

theorem mem_silentSince {id : String} :
    (roomId, id) ∈ hub.silentSince cutoff ↔
      ∃ room node, hub.rooms.get? roomId = some room ∧ room.nodes.get? id = some node ∧
        node.lastReport < cutoff := by
  simp only [silentSince, List.mem_flatMap, List.mem_map, Prod.exists, Prod.mk.injEq,
    Table.mem_entries_iff, Room.mem_silentSince]
  constructor
  · rintro ⟨_, room, hroom, _, ⟨node, hnode, hsilent⟩, rfl, rfl⟩
    exact ⟨room, node, hroom, hnode, hsilent⟩
  · rintro ⟨room, node, hroom, hnode, hsilent⟩
    exact ⟨roomId, room, hroom, id, ⟨node, hnode, hsilent⟩, rfl, rfl⟩

/-- A silent node is listed once: a room lists it once, and no two rooms are called the same. -/
theorem nodup_silentSince (hub : Hub α) (cutoff : Instant) : (hub.silentSince cutoff).Nodup := by
  refine List.nodup_flatMap.2 ⟨fun entry _ => ?_, hub.rooms.sorted.imp fun {first second} hlt => ?_⟩
  · exact (entry.2.nodup_silentSince cutoff).map fun a b heq => (Prod.mk.inj heq).2
  · intro node hfirst hsecond
    obtain ⟨_, -, rfl⟩ := List.mem_map.1 hfirst
    obtain ⟨_, -, heq⟩ := List.mem_map.1 hsecond
    rw [(Prod.mk.inj heq).1] at hlt
    exact String.lt_irrefl _ hlt

/-- What an eviction leaves of a room. -/
theorem get?_evictSilentSince (hub : Hub α) (cutoff : Instant) (roomId : String) :
    (hub.evictSilentSince cutoff).hub.rooms.get? roomId =
      (hub.rooms.get? roomId).bind
        (fun room => room.afterDepartures (ofRoom (hub.silentSince cutoff) roomId)) := by
  refine get?_leaveAll (hub.nodup_silentSince cutoff) (fun node hnode => ?_) roomId
  obtain ⟨room, found, hroom, hfound, -⟩ := mem_silentSince.1 hnode
  rw [owner?_of_get? hroom hfound]
  rfl

/-! ## Evictions -/

/-- What an eviction does when some nodes are stale. -/
structure Evicts (stale : String → String → Bool) (before : Hub α) (eviction : Eviction α) :
    Prop where
  /-- No room comes. -/
  absent : ∀ {roomId}, before.rooms.get? roomId = none → eviction.hub.rooms.get? roomId = none
  /-- A room without stale nodes stays as it is. -/
  untouched : ∀ {roomId room}, before.rooms.get? roomId = some room →
    (∀ id ∈ room.nodes.keys, stale roomId id = false) →
    eviction.hub.rooms.get? roomId = some room
  /-- A room that keeps a node stays, and exactly the stale nodes have left it. -/
  cleared : ∀ {roomId room id}, before.rooms.get? roomId = some room → id ∈ room.nodes.keys →
    stale roomId id = false →
    ∃ after, eviction.hub.rooms.get? roomId = some after ∧ room.Cleared (stale roomId) after
  /-- A room that loses its last node goes. -/
  emptied : ∀ {roomId room id}, before.rooms.get? roomId = some room → id ∈ room.nodes.keys →
    (∀ id ∈ room.nodes.keys, stale roomId id = true) → eviction.hub.rooms.get? roomId = none
  /-- A room is named once. -/
  nodup_rooms : eviction.rooms.Nodup
  /-- The rooms are named that lose a node. -/
  mem_rooms : ∀ roomId, roomId ∈ eviction.rooms ↔
    ∃ room id, before.rooms.get? roomId = some room ∧ id ∈ room.nodes.keys ∧
      stale roomId id = true

section Stale

variable {stale : String → String → Bool}
  (hstale : ∀ {roomId room id node}, hub.rooms.get? roomId = some room →
    room.nodes.get? id = some node → (stale roomId id = true ↔ node.lastReport < cutoff))

include hstale

theorem mem_ofRoom_silentSince (hroom : hub.rooms.get? roomId = some room) (id : String) :
    id ∈ ofRoom (hub.silentSince cutoff) roomId ↔
      id ∈ room.nodes.keys ∧ stale roomId id = true := by
  rw [mem_ofRoom, mem_silentSince, Table.mem_keys]
  constructor
  · rintro ⟨found, node, hfound, hnode, hsilent⟩
    rw [hroom] at hfound
    rw [← Option.some.inj hfound] at hnode
    exact ⟨⟨node, hnode⟩, (hstale hroom hnode).2 hsilent⟩
  · rintro ⟨⟨node, hnode⟩, hold⟩
    exact ⟨room, node, hroom, hnode, (hstale hroom hnode).1 hold⟩

theorem cleared_silentSince (hwf : room.WellFormed) (hroom : hub.rooms.get? roomId = some room) :
    room.Cleared (stale roomId)
      (room.withoutNodes (ofRoom (hub.silentSince cutoff) roomId)) := by
  refine (Room.cleared_withoutNodes hwf.marksTargets _).congr hwf fun id hid => ?_
  have hkey : id ∈ room.nodes.keys := Table.mem_keys.2 (Table.contains_iff.1 hid)
  rw [Bool.eq_iff_iff, decide_eq_true_iff, mem_ofRoom_silentSince hstale hroom]
  simp [hkey]

/-- An eviction takes exactly the stale nodes out, if the stale nodes are those that keep a report
from before the cutoff. -/
theorem evicts_evictSilentSince (hwf : hub.Everywhere Room.WellFormed) :
    Evicts stale hub (hub.evictSilentSince cutoff) := by
  constructor
  case absent =>
    intro roomId habsent
    rw [get?_evictSilentSince, habsent]
    rfl
  case untouched =>
    intro roomId room hroom hfresh
    have hnone : ofRoom (hub.silentSince cutoff) roomId = [] := by
      refine List.eq_nil_iff_forall_not_mem.2 fun id hid => ?_
      obtain ⟨hkey, hold⟩ := (mem_ofRoom_silentSince hstale hroom id).1 hid
      rw [hfresh id hkey] at hold
      cases hold
    rw [get?_evictSilentSince, hroom, Option.bind_some, hnone, Room.afterDepartures_nil]
  case cleared =>
    intro roomId room id hroom hkey hfresh
    have hcleared := cleared_silentSince hstale (hwf roomId room hroom) hroom
    have hstays := (hcleared.contains_node id).2
      ⟨Table.contains_iff.2 (Table.mem_keys.1 hkey), hfresh⟩
    refine ⟨_, ?_, hcleared⟩
    rw [get?_evictSilentSince, hroom, Option.bind_some, Room.afterDepartures, if_neg]
    rintro ⟨-, hempty⟩
    rw [Table.isEmpty_iff.1 hempty] at hstays
    cases hstays
  case emptied =>
    intro roomId room id hroom hkey hall
    have hcleared := cleared_silentSince hstale (hwf roomId room hroom) hroom
    have hlisted := (mem_ofRoom_silentSince hstale hroom id).2 ⟨hkey, hall id hkey⟩
    rw [get?_evictSilentSince, hroom, Option.bind_some, Room.afterDepartures, if_pos]
    refine ⟨List.ne_nil_of_mem hlisted, Table.isEmpty_iff.2 (Table.ext_get? fun other => ?_)⟩
    rw [Table.get?_empty, Option.eq_none_iff_forall_ne_some]
    intro node hnode
    obtain ⟨hother, hfresh⟩ := (hcleared.contains_node other).1 (Table.contains_iff.2 ⟨node, hnode⟩)
    rw [hall other (Table.mem_keys.2 (Table.contains_iff.1 hother))] at hfresh
    cases hfresh
  case nodup_rooms => exact Table.nodup_keys _
  case mem_rooms =>
    intro roomId
    have hrooms : (hub.evictSilentSince cutoff).rooms =
        (hub.rooms.filter (fun _ room => !(room.silentSince cutoff).isEmpty)).keys := rfl
    rw [hrooms, Table.mem_keys]
    simp only [Table.get?_filter, Option.filter_eq_some_iff, Bool.not_eq_true',
      List.isEmpty_eq_false_iff_exists_mem, Room.mem_silentSince]
    constructor
    · rintro ⟨room, hroom, id, node, hnode, hsilent⟩
      exact ⟨room, id, hroom, Table.mem_keys.2 ⟨node, hnode⟩, (hstale hroom hnode).2 hsilent⟩
    · rintro ⟨room, id, hroom, hkey, hold⟩
      obtain ⟨node, hnode⟩ := Table.mem_keys.1 hkey
      exact ⟨room, hroom, id, node, hnode, (hstale hroom hnode).1 hold⟩

end Stale

end Hub

end RelayMesh
