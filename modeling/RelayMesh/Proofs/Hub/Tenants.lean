import RelayMesh.Proofs.Hub.Nodes

/-!
# Operations that let no node in

Only a join puts a node into a room.  Every other operation that the server
asks of the hub leaves each node under its tenant (the session that speaks
for it and the link that it carries) or takes it out, and takes a room out
with its last node.  `Hub.Sheds` says so of the hub before and after.

* `upkeep_sheds` is for the operations that only take nodes out, keep reports
  and decide, a round of the watch among them; `sheds_publish` is the operation
  beyond them.
* `leaveSession_of_ne` is a departure of a session that has lost its node: it
  takes nothing out.
-/

namespace RelayMesh

namespace Room

variable {α : Type} {room after : Room α}

/-- Some node is in the room. -/
def Occupied (room : Room α) : Prop :=
  ∃ id node, room.nodes.get? id = some node

theorem occupied_iff : room.Occupied ↔ ∃ id tenant, room.tenant? id = some tenant := by
  constructor
  · intro h
    obtain ⟨id, node, hnode⟩ := h
    exact ⟨id, _, look_of_get? _ hnode⟩
  · intro h
    obtain ⟨id, tenant, htenant⟩ := h
    obtain ⟨node, hnode, -⟩ := Option.map_eq_some_iff.1 htenant
    exact ⟨id, node, hnode⟩

theorem Occupied.of_tenant? (h : room.Occupied)
    (htenant : ∀ id, after.tenant? id = room.tenant? id) : after.Occupied := by
  obtain ⟨id, tenant, hid⟩ := occupied_iff.1 h
  exact occupied_iff.2 ⟨id, tenant, (htenant id).trans hid⟩

theorem occupied_of_not_isEmpty (h : ¬room.nodes.isEmpty = true) : room.Occupied := by
  by_contra hnone
  apply h
  rw [Table.isEmpty_iff]
  apply Table.ext_get?
  intro id
  cases hnode : room.nodes.get? id with
  | none => rfl
  | some node => exact absurd ⟨id, node, hnode⟩ hnone

end Room

namespace Hub

variable {α : Type} {hub before between after : Hub α}
  {roomId nodeId otherRoom other session : String} {room : Room α} {node : Node α}

/-- Every node was there before under the same tenant, and no room is without a node if none was
before. -/
structure Sheds (before after : Hub α) : Prop where
  tenant : ∀ {roomId nodeId tenant}, after.tenant? roomId nodeId = some tenant →
    before.tenant? roomId nodeId = some tenant
  occupied : before.Everywhere Room.Occupied → after.Everywhere Room.Occupied

theorem Sheds.refl (hub : Hub α) : Sheds hub hub := ⟨id, id⟩

theorem Sheds.trans (h : Sheds before between) (h' : Sheds between after) : Sheds before after :=
  ⟨fun htenant => h.tenant (h'.tenant htenant), fun hbefore => h'.occupied (h.occupied hbefore)⟩

theorem Sheds.owner? (h : Sheds before after) {owner : Option String}
    (howner : after.owner? roomId nodeId = some owner) :
    before.owner? roomId nodeId = some owner := by
  rw [owner?_eq] at howner
  obtain ⟨tenant, htenant, heq⟩ := Option.map_eq_some_iff.1 howner
  rw [owner?_eq, h.tenant htenant]
  exact congrArg some heq

/-- A room in which every node keeps its tenant. -/
theorem sheds_withRoom (hroom : hub.rooms.get? roomId = some room) {after : Room α}
    (htenant : ∀ id, after.tenant? id = room.tenant? id) : Sheds hub (hub.withRoom roomId after) where
  tenant {otherRoom other tenant} h := by
    rw [tenant?, look_withRoom_congr hroom (htenant other)] at h
    exact h
  occupied h := h.withRoom ((h roomId room hroom).of_tenant? htenant) roomId

theorem everywhere_occupied_dropIfEmpty (h : hub.Everywhere Room.Occupied) (room : Room α) :
    ((hub.withRoom roomId room).dropIfEmpty roomId).Everywhere Room.Occupied := by
  intro other otherRoom hother
  by_cases heq : other = roomId
  · rw [heq, get?_withRoom_dropIfEmpty] at hother
    split at hother
    · cases hother
    · rename_i hoccupied
      rw [← Option.some.inj hother]
      exact Room.occupied_of_not_isEmpty hoccupied
  · rw [get?_withRoom_dropIfEmpty_of_ne heq] at hother
    exact h other otherRoom hother

theorem sheds_departed (hroom : hub.rooms.get? roomId = some room) (nodeId : String) :
    Sheds hub ((hub.withRoom roomId (room.withoutNode nodeId)).dropIfEmpty roomId) where
  tenant {otherRoom other tenant} h := by
    rw [tenant?_departed hroom] at h
    split at h
    · exact nomatch h
    · exact h
  occupied h := everywhere_occupied_dropIfEmpty h _

/-! ## Departures and arrivals -/

/-- A session that does not speak for a node is refused. -/
theorem leaveSession_of_ne (h : hub.owner? roomId nodeId ≠ some (some session)) :
    hub.leaveSession roomId nodeId session = (false, hub) := by
  unfold leaveSession
  split
  · rfl
  · rename_i node rest hremove
    obtain ⟨room, hroom, hremove⟩ := Option.bind_eq_some_iff.1 hremove
    obtain ⟨hnode, haccepts, -⟩ := Room.removeNodeIf_eq_some.1 hremove
    have hsession : node.session = some session := by simpa [Node.isOwnedBy] using haccepts
    rw [owner?_of_get? hroom hnode, hsession] at h
    exact absurd rfl h

theorem Everywhere.join_occupied (h : hub.Everywhere Room.Occupied) (node : Node α) :
    (hub.join roomId nodeId node).2.Everywhere Room.Occupied := by
  intro otherRoom room hroom
  rw [join, get?_withRoom] at hroom
  split at hroom
  · rw [← Option.some.inj hroom]
    exact ⟨nodeId, node, by rw [Room.get?_nodes_addNode, if_pos rfl]⟩
  · rename_i hne
    rw [Hub.createRoom] at hroom
    split at hroom
    · exact h otherRoom room hroom
    · rw [get?_withRoom, if_neg hne] at hroom
      exact h otherRoom room hroom

/-! ## Upkeep -/

theorem sheds_publish (hub : Hub α) (roomId nodeId stream : String) (media : MediaKind) :
    Sheds hub (hub.settle (hub.publish roomId nodeId stream media)) := by
  rcases settle_publish_cases hub roomId nodeId stream media with
    ⟨room, hroom, -, -, heq⟩ | ⟨heq, -⟩
  · rw [heq]
    exact sheds_withRoom hroom fun _ => rfl
  · rw [heq]
    exact Sheds.refl hub

variable [Scalar α]

theorem upkeep_sheds : Upkeep (Sheds (α := α)) where
  refl := Sheds.refl
  trans := Sheds.trans
  departed nodeId hroom := sheds_departed hroom nodeId
  reported _ _ _ hroom := sheds_withRoom hroom fun _ => Room.tenant?_reporting
  decided hroom hnode := sheds_withRoom hroom fun _ => Room.tenant?_assigned hnode _

/-- A decision changes no tenant. -/
theorem tenant?_evaluate {kept : Assignment}
    (h : hub.evaluate roomId nodeId = .ok (kept, after)) :
    after.tenant? otherRoom other = hub.tenant? otherRoom other :=
  look_evaluate (fun _ _ _ => rfl) h

end Hub

end RelayMesh
