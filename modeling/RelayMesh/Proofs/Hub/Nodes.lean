import RelayMesh.Proofs.Hub.Run
import RelayMesh.Proofs.Room.Duty

/-!
# The nodes of a hub

Two things about a node matter to the sessions: who speaks for it
(`Hub.owner?`, and with the link that it carries `Hub.tenant?`) and what it is
to do (`Hub.duty?`).  All are read off the room and the node by `Hub.look`,
and an operation of the hub is described here by what it does to them.

* `look_withRoom` and `look_dropIfEmpty` hold of everything that is read this
  way.
* `look_join`, `look_departed`, `look_evaluate` and `look_rebalance` are for
  what is read off the node alone.
* `leave_of_get?`, `leaveSession_of_get?`, `evaluate_of_get?` and
  `report_of_get?` are the specifications of the operations on a node that is
  there.
-/

namespace RelayMesh

namespace Room

variable {α β : Type} {room : Room α} {id other : String} {node : Node α}

/-- What a function reads off a node in its room. -/
def look (f : Room α → Node α → β) (room : Room α) (id : String) : Option β :=
  (room.nodes.get? id).map (f room)

/-- The session that speaks for a node, and the link that the node carries. -/
abbrev tenant? (room : Room α) (id : String) : Option (Option String × Option String) :=
  room.look (fun _ node => (node.session, node.link)) id

/-- The session that speaks for a node. -/
abbrev owner? (room : Room α) (id : String) : Option (Option String) :=
  room.look (fun _ node => node.session) id

/-- What a node is to do. -/
abbrev duty? (room : Room α) (id : String) : Option Assignment :=
  room.look duty id

theorem look_of_get? (f : Room α → Node α → β) (h : room.nodes.get? id = some node) :
    room.look f id = some (f room node) := by
  rw [look, h]
  rfl

theorem duty?_of_get? (h : room.nodes.get? id = some node) :
    room.duty? id = some (room.duty node) :=
  look_of_get? _ h

theorem owner?_eq (room : Room α) (id : String) :
    room.owner? id = (room.tenant? id).map Prod.fst := by
  rw [owner?, look, tenant?, look, Option.map_map]
  rfl

/-- A departure takes one node away, and leaves the others what does not depend on their streams. -/
theorem look_withoutNode {f : Node α → β} (hf : ∀ node gone, f (Node.without node gone) = f node) :
    (room.withoutNode id).look (fun _ => f) other =
      if other = id then none else room.look (fun _ => f) other := by
  rw [look, get?_nodes_withoutNode]
  split
  · rfl
  · rw [Option.map_map]
    exact Option.map_congr fun node _ => hf node _

theorem look_addNode {f : Node α → β} :
    (room.addNode id node).look (fun _ => f) other =
      if other = id then some (f node) else room.look (fun _ => f) other := by
  rw [look, get?_nodes_addNode]
  split <;> rfl

theorem duty?_addNode (h : other ≠ id) : (room.addNode id node).duty? other = room.duty? other := by
  rw [duty?, look, get?_nodes_addNode, if_neg h]
  rfl

/-- The room with a report of one of its nodes. -/
def reporting (room : Room α) (id : String) (load : Load α) (now : Instant) : Room α :=
  { room with nodes := room.nodes.modify id (fun node => node.report load now) }

variable {load : Load α} {now : Instant}

theorem WellFormed.reporting (h : room.WellFormed) : (room.reporting id load now).WellFormed :=
  h.modifyNode (fun _ => rfl) (fun _ => rfl)

theorem get?_nodes_reporting (h : room.nodes.get? id = some node) :
    (room.reporting id load now).nodes.get? id = some (node.report load now) := by
  rw [Room.reporting, Table.get?_modify, if_pos rfl, h]
  rfl

theorem tenant?_reporting : (room.reporting id load now).tenant? other = room.tenant? other := by
  rw [tenant?, look, Room.reporting, Table.get?_modify]
  split
  · rw [Option.map_map]
    rfl
  · rfl

theorem owner?_reporting : (room.reporting id load now).owner? other = room.owner? other := by
  rw [owner?_eq, tenant?_reporting, owner?_eq]

/-- A report changes no duty. -/
theorem duty?_reporting : (room.reporting id load now).duty? other = room.duty? other := by
  rw [duty?, look, Room.reporting, Table.get?_modify]
  split
  · rw [Option.map_map]
    rfl
  · rfl

/-- What does not depend on the assignment of a node is the same after an assignment. -/
theorem look_assigned {f : Node α → β}
    (hf : ∀ node role streams, f (Node.assign node role streams) = f node)
    (h : room.nodes.get? id = some node) (kept : Assignment) :
    (room.assigned id node kept).look (fun _ => f) other = room.look (fun _ => f) other := by
  rw [look, get?_nodes_assigned]
  split
  · rename_i heq
    rw [heq, look_of_get? _ h]
    exact congrArg some (hf ..)
  · rfl

theorem tenant?_assigned (h : room.nodes.get? id = some node) (kept : Assignment) :
    (room.assigned id node kept).tenant? other = room.tenant? other :=
  look_assigned (fun _ _ _ => rfl) h kept

theorem owner?_assigned (h : room.nodes.get? id = some node) (kept : Assignment) :
    (room.assigned id node kept).owner? other = room.owner? other := by
  rw [owner?_eq, tenant?_assigned h, owner?_eq]

theorem duty?_assigned (h : other ≠ id) (kept : Assignment) :
    (room.assigned id node kept).duty? other = room.duty? other := by
  rw [duty?, look, get?_nodes_assigned, if_neg h]
  exact Option.map_congr fun node _ => duty_congr (streamInfos_assigned kept) rfl rfl

variable [Scalar α] {policy : Policy α}

theorem look_rebalance {f : Node α → β}
    (hf : ∀ node role streams, f (Node.assign node role streams) = f node) :
    (room.rebalance policy).2.look (fun _ => f) id = room.look (fun _ => f) id :=
  evaluateAll_induction (P := fun _ r => r.look (fun _ => f) id = room.look (fun _ => f) id)
    (fun _ _ _ _ hget hlook => (look_assigned hf hget _).trans hlook)
    (fun _ _ _ _ hlook => hlook) rfl

theorem tenant?_rebalance : (room.rebalance policy).2.tenant? id = room.tenant? id :=
  look_rebalance fun _ _ _ => rfl

theorem owner?_rebalance : (room.rebalance policy).2.owner? id = room.owner? id := by
  rw [owner?_eq, tenant?_rebalance, owner?_eq]

end Room

namespace Hub

variable {α β : Type} {hub : Hub α} {roomId nodeId otherRoom other : String} {room : Room α}
  {node : Node α} {f : Room α → Node α → β}

/-- What a function reads off a node of the hub. -/
def look (f : Room α → Node α → β) (hub : Hub α) (roomId nodeId : String) : Option β :=
  (hub.rooms.get? roomId).bind (fun room => room.look f nodeId)

/-- The session that speaks for a node, and the link that the node carries. -/
abbrev tenant? (hub : Hub α) (roomId nodeId : String) : Option (Option String × Option String) :=
  hub.look (fun _ node => (node.session, node.link)) roomId nodeId

/-- The session that speaks for a node. -/
abbrev owner? (hub : Hub α) (roomId nodeId : String) : Option (Option String) :=
  hub.look (fun _ node => node.session) roomId nodeId

/-- What a node is to do. -/
abbrev duty? (hub : Hub α) (roomId nodeId : String) : Option Assignment :=
  hub.look Room.duty roomId nodeId

theorem look_of_get? (h : hub.rooms.get? roomId = some room) :
    hub.look f roomId nodeId = room.look f nodeId := by
  rw [look, h]
  rfl

theorem owner?_eq (hub : Hub α) (roomId nodeId : String) :
    hub.owner? roomId nodeId = (hub.tenant? roomId nodeId).map Prod.fst := by
  rw [owner?, look, tenant?, look]
  cases hub.rooms.get? roomId with
  | none => rfl
  | some room => exact room.owner?_eq nodeId

theorem owner?_of_get? (hroom : hub.rooms.get? roomId = some room)
    (hnode : room.nodes.get? nodeId = some node) :
    hub.owner? roomId nodeId = some node.session :=
  (look_of_get? hroom).trans (Room.look_of_get? _ hnode)

theorem duty?_of_get? (hroom : hub.rooms.get? roomId = some room)
    (hnode : room.nodes.get? nodeId = some node) :
    hub.duty? roomId nodeId = some (room.duty node) :=
  (look_of_get? hroom).trans (Room.duty?_of_get? hnode)

theorem look_withRoom :
    (hub.withRoom roomId room).look f otherRoom other =
      if otherRoom = roomId then room.look f other else hub.look f otherRoom other := by
  rw [look, get?_withRoom]
  split <;> rfl

/-- An empty room has no node to lose. -/
theorem look_dropIfEmpty :
    (hub.dropIfEmpty roomId).look f otherRoom other = hub.look f otherRoom other := by
  rw [dropIfEmpty]
  split
  · rename_i hempty
    obtain ⟨room, hroom, hnodes⟩ := (Option.any_eq_true ..).1 hempty
    rw [look, Table.get?_erase]
    split
    · rename_i heq
      rw [heq, look_of_get? hroom, Room.look, Table.isEmpty_iff.1 hnodes]
      rfl
    · rfl
  · rfl

/-- A room that is dropped when it is empty is there exactly when it has nodes. -/
theorem get?_withRoom_dropIfEmpty :
    ((hub.withRoom roomId room).dropIfEmpty roomId).rooms.get? roomId =
      if room.nodes.isEmpty then none else some room := by
  rw [dropIfEmpty, get?_withRoom_self, Option.any_some]
  split
  · rw [Table.get?_erase, if_pos rfl]
  · exact get?_withRoom_self ..

/-- The other rooms are not asked whether they are empty. -/
theorem get?_withRoom_dropIfEmpty_of_ne (h : otherRoom ≠ roomId) :
    ((hub.withRoom roomId room).dropIfEmpty roomId).rooms.get? otherRoom =
      hub.rooms.get? otherRoom := by
  have hsame : (hub.withRoom roomId room).rooms.get? otherRoom = hub.rooms.get? otherRoom := by
    rw [get?_withRoom, if_neg h]
  rw [dropIfEmpty]
  split
  · rw [Table.get?_erase, if_neg h, hsame]
  · exact hsame

/-- What is read off a node of a room that changes depends on the room only. -/
theorem look_withRoom_congr (hroom : hub.rooms.get? roomId = some room) {after : Room α}
    (h : after.look f other = room.look f other) :
    (hub.withRoom roomId after).look f otherRoom other = hub.look f otherRoom other := by
  rw [look_withRoom]
  split
  · rename_i heq
    rw [heq, h, look_of_get? hroom]
  · rfl

/-- A room that does not exist has no nodes, just like an empty one. -/
theorem look_getD : ((hub.rooms.get? roomId).getD ∅).look f other = hub.look f roomId other := by
  rw [look]
  cases hub.rooms.get? roomId <;> rfl

theorem look_createRoom :
    (hub.createRoom roomId).look f otherRoom other = hub.look f otherRoom other := by
  rw [← look_getD, ← look_getD]
  by_cases heq : otherRoom = roomId
  · rw [heq, getD_createRoom]
  · rw [createRoom]
    split
    · rfl
    · rw [get?_withRoom, if_neg heq]

/-- An arrival puts one node in its place. -/
theorem look_join {g : Node α → β} :
    (hub.join roomId nodeId node).2.look (fun _ => g) otherRoom other =
      if otherRoom = roomId ∧ other = nodeId then some (g node)
      else hub.look (fun _ => g) otherRoom other := by
  rw [join, look_withRoom, look_createRoom, getD_createRoom]
  by_cases hroom : otherRoom = roomId
  · rw [if_pos hroom, Room.look_addNode, look_getD, hroom]
    simp
  · simp [hroom]

theorem tenant?_join :
    (hub.join roomId nodeId node).2.tenant? otherRoom other =
      if otherRoom = roomId ∧ other = nodeId then some (node.session, node.link)
      else hub.tenant? otherRoom other :=
  look_join

theorem owner?_join :
    (hub.join roomId nodeId node).2.owner? otherRoom other =
      if otherRoom = roomId ∧ other = nodeId then some node.session
      else hub.owner? otherRoom other := by
  rw [owner?_eq, tenant?_join, owner?_eq]
  split <;> rfl

theorem duty?_join (h : ¬(otherRoom = roomId ∧ other = nodeId)) :
    (hub.join roomId nodeId node).2.duty? otherRoom other = hub.duty? otherRoom other := by
  rw [duty?, join, look_withRoom, look_createRoom, getD_createRoom]
  by_cases hroom : otherRoom = roomId
  · rw [if_pos hroom, ← Room.duty?, Room.duty?_addNode fun hother => h ⟨hroom, hother⟩,
      Room.duty?, look_getD, hroom]
  · rw [if_neg hroom]

/-- A departure takes one node away, and leaves the others what does not depend on their streams. -/
theorem look_departed {g : Node α → β} (hg : ∀ node gone, g (Node.without node gone) = g node)
    (hroom : hub.rooms.get? roomId = some room) :
    ((hub.withRoom roomId (room.withoutNode nodeId)).dropIfEmpty roomId).look (fun _ => g)
        otherRoom other =
      if otherRoom = roomId ∧ other = nodeId then none
      else hub.look (fun _ => g) otherRoom other := by
  rw [look_dropIfEmpty, look_withRoom]
  by_cases heq : otherRoom = roomId
  · rw [if_pos heq, Room.look_withoutNode hg, heq, look_of_get? hroom]
    simp
  · simp [heq]

theorem tenant?_departed (hroom : hub.rooms.get? roomId = some room) :
    ((hub.withRoom roomId (room.withoutNode nodeId)).dropIfEmpty roomId).tenant? otherRoom other =
      if otherRoom = roomId ∧ other = nodeId then none else hub.tenant? otherRoom other :=
  look_departed (fun _ _ => rfl) hroom

theorem owner?_departed (hroom : hub.rooms.get? roomId = some room) :
    ((hub.withRoom roomId (room.withoutNode nodeId)).dropIfEmpty roomId).owner? otherRoom other =
      if otherRoom = roomId ∧ other = nodeId then none else hub.owner? otherRoom other := by
  rw [owner?_eq, tenant?_departed hroom, owner?_eq]
  split <;> rfl

/-! ## Operations on a node that is there -/

/-- A node that has a place is in its room. -/
theorem exists_of_owner? {owner : Option String} (h : hub.owner? roomId nodeId = some owner) :
    ∃ room node, hub.rooms.get? roomId = some room ∧ room.nodes.get? nodeId = some node ∧
      node.session = owner := by
  obtain ⟨room, hroom, hlook⟩ := Option.bind_eq_some_iff.1 h
  obtain ⟨node, hnode, hsession⟩ := Option.map_eq_some_iff.1 hlook
  exact ⟨room, node, hroom, hnode, hsession⟩

theorem leave_of_get? (hroom : hub.rooms.get? roomId = some room)
    (hnode : room.nodes.get? nodeId = some node) :
    hub.leave roomId nodeId =
      .ok (node.link, (hub.withRoom roomId (room.withoutNode nodeId)).dropIfEmpty roomId) := by
  have hremove : room.removeNode nodeId = some (node, room.withoutNode nodeId) :=
    Room.removeNodeIf_eq_some.2 ⟨hnode, rfl, rfl⟩
  rw [leave, room_of_get? hroom]
  dsimp only
  rw [hremove]

/-- A session takes the node out that it speaks for. -/
theorem leaveSession_of_get? {session : String} (hroom : hub.rooms.get? roomId = some room)
    (hnode : room.nodes.get? nodeId = some node) (howner : node.session = some session) :
    hub.leaveSession roomId nodeId session =
      (true, (hub.withRoom roomId (room.withoutNode nodeId)).dropIfEmpty roomId) := by
  have hremove : room.removeNodeIf nodeId (fun node => node.isOwnedBy session) =
      some (node, room.withoutNode nodeId) :=
    Room.removeNodeIf_eq_some.2 ⟨hnode, by simp [Node.isOwnedBy, howner], rfl⟩
  rw [leaveSession, hroom, Option.bind_some, hremove]

variable [Scalar α]

theorem evaluate_of_get? (hroom : hub.rooms.get? roomId = some room)
    (hnode : room.nodes.get? nodeId = some node) :
    hub.evaluate roomId nodeId =
      .ok (room.decision hub.policy nodeId node,
        hub.withRoom roomId (room.decided hub.policy nodeId node)) := by
  rw [evaluate, room_of_get? hroom]
  dsimp only
  rw [Room.evaluate_of_get? hnode]
  rfl

/-- A decision leaves what does not depend on the assignment of a node. -/
theorem look_evaluate {g : Node α → β} {kept : Assignment} {after : Hub α}
    (hg : ∀ node role streams, g (Node.assign node role streams) = g node)
    (h : hub.evaluate roomId nodeId = .ok (kept, after)) :
    after.look (fun _ => g) otherRoom other = hub.look (fun _ => g) otherRoom other := by
  obtain ⟨room, node, hroom, hnode, -, rfl⟩ := evaluate_eq_ok h
  exact look_withRoom_congr hroom (Room.look_assigned hg hnode _)

/-- So does a pass. -/
theorem look_rebalance {g : Node α → β} {changes : List (String × Assignment)} {after : Hub α}
    (hg : ∀ node role streams, g (Node.assign node role streams) = g node)
    (h : hub.rebalance roomId = .ok (changes, after)) :
    after.look (fun _ => g) otherRoom other = hub.look (fun _ => g) otherRoom other := by
  obtain ⟨room, hroom, -, rfl⟩ := rebalance_eq_ok h
  exact look_withRoom_congr hroom (Room.look_rebalance hg)

/-- A report is kept before the decision about its node. -/
theorem report_of_get? (hroom : hub.rooms.get? roomId = some room)
    (hnode : room.nodes.get? nodeId = some node) (load : Load α) (now : Instant) :
    hub.report roomId nodeId load now =
      (hub.withRoom roomId (room.reporting nodeId load now)).evaluate roomId nodeId := by
  rw [report, room_of_get? hroom]
  dsimp only
  rw [Room.report, if_pos (Table.contains_iff.2 ⟨node, hnode⟩)]
  rfl

theorem report_of_absent (h : ∀ room, hub.rooms.get? roomId = some room →
    room.nodes.contains nodeId = false) (load : Load α) (now : Instant) :
    ∃ e, hub.report roomId nodeId load now = .error e := by
  cases hget : hub.rooms.get? roomId with
  | none =>
    refine ⟨.roomNotFound roomId, ?_⟩
    rw [report, Hub.room, hget]
  | some room =>
    refine ⟨.nodeNotFound nodeId, ?_⟩
    rw [report, room_of_get? hget]
    dsimp only
    rw [Room.report, h room hget]
    rfl

/-- A report is kept as what the node reported last. -/
theorem exists_report (hroom : hub.rooms.get? roomId = some room)
    (hnode : room.nodes.get? nodeId = some node) (load : Load α) (now : Instant) :
    ∃ kept after, hub.report roomId nodeId load now = .ok (kept, after) ∧
      after.look (fun _ node => (node.load, node.lastReport)) roomId nodeId = some (load, now) := by
  have hafter : (room.reporting nodeId load now).nodes.get? nodeId = some (node.report load now) :=
    Room.get?_nodes_reporting hnode
  rw [report_of_get? hroom hnode, evaluate_of_get? (get?_withRoom_self ..) hafter]
  refine ⟨_, _, rfl, ?_⟩
  rw [look_withRoom, if_pos rfl]
  exact (Room.look_assigned (fun _ _ _ => rfl) hafter _).trans (Room.look_of_get? _ hafter)

end Hub

end RelayMesh
