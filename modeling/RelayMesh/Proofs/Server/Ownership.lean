import RelayMesh.Proofs.Hub.Nodes
import RelayMesh.Proofs.Hub.Relation
import RelayMesh.Proofs.Server.Standing

/-!
# Sessions and the nodes that they speak for

`Server.Consistent` ties the three places together in which the server keeps
who speaks for a node: the node itself, the membership of the session, and the
sender registry.

What a peer asks for is carried out in a few stages, and each stage keeps the
server consistent:

* `Server.departed` takes the node of a session out (`Consistent.departed`);
* `Server.joined` puts a node for a session into a room
  (`Consistent.joined`), under an identifier that no other session uses;
* `Server.revised` puts a room into a new state (`Consistent.revised`);
* `Server.decided` decides about the node of a session and tells the session
  (`Consistent.decided`);
* `Server.rebalance` decides about all nodes of a room
  (`Consistent.rebalance`).
-/

namespace RelayMesh

/-- The part of a standing that messages do not change. -/
def Standing.seat (standing : Standing) : Option Membership × Bool :=
  (standing.membership, standing.listening)

namespace Server

variable {server before after : Server} {id other : String} {m : Membership}
  {room : Room Float} {node : Node Float}

/-! ## Consistent servers -/

/-- The nodes, the memberships and the sender registry agree about who speaks for a node, every
session takes messages, and the rooms are well-formed. -/
structure Consistent (server : Server) : Prop where
  wellFormed : server.hub.Everywhere Room.WellFormed
  /-- A node is owned by a session that knows it. -/
  owned : ∀ {room node owner}, server.hub.owner? room node = some owner →
    ∃ id, owner = some id ∧ server.membership? id = some ⟨room, node⟩
  /-- The node of a session is there, and the session owns it. -/
  present : ∀ {id m}, server.membership? id = some m →
    server.hub.owner? m.room m.node = some (some id)
  /-- The session of a node is told about the node. -/
  sender : ∀ {id m}, server.membership? id = some m → server.senders.get? m.node = some id
  listening : ∀ {id standing}, server.standing? id = some standing → standing.listening = true

theorem consistent_new (engine : MediaEngine) (options : LinkOptions) (policy : Policy Float) :
    (new engine options policy).Consistent where
  wellFormed := Hub.everywhere_new _ policy
  owned h := nomatch h
  present h := nomatch h
  sender h := nomatch h
  listening h := nomatch h

/-- The node of a session, with its room. -/
theorem Consistent.exists_node (h : server.Consistent) (hm : server.membership? id = some m) :
    ∃ room node, server.hub.rooms.get? m.room = some room ∧ room.nodes.get? m.node = some node ∧
      node.session = some id :=
  Hub.exists_of_owner? (h.present hm)

/-- The node of a session, in a room that is known to be its room. -/
theorem Consistent.exists_node_of_room (h : server.Consistent) (hm : server.membership? id = some m)
    {roomId : String} (hhere : m.room = roomId)
    (hroom : server.hub.rooms.get? roomId = some room) :
    ∃ node, room.nodes.get? m.node = some node := by
  obtain ⟨found, node, hfound, hnode, -⟩ := h.exists_node hm
  rw [hhere, hroom] at hfound
  rw [← Option.some.inj hfound] at hnode
  exact ⟨node, hnode⟩

/-- Sessions that speak for nodes of the same identifier are the same. -/
theorem Consistent.eq_of_node_eq (h : server.Consistent) {m' : Membership}
    (hm : server.membership? id = some m) (hm' : server.membership? other = some m')
    (heq : m.node = m'.node) : id = other := by
  have hsender := h.sender hm
  rw [heq, h.sender hm'] at hsender
  exact (Option.some.inj hsender).symm

/-- A session with a node has started and not finished. -/
theorem exists_standing (hm : server.membership? id = some m) :
    ∃ standing, server.standing? id = some standing ∧ standing.membership = some m := by
  rw [membership?_eq] at hm
  exact Option.bind_eq_some_iff.1 hm

theorem Consistent.isListening (h : server.Consistent) (hm : server.membership? id = some m) :
    server.isListening id = true := by
  obtain ⟨standing, hstanding, -⟩ := exists_standing hm
  obtain ⟨session, hsession, rfl⟩ := Option.map_eq_some_iff.1 hstanding
  have hlistening := h.listening hstanding
  rw [Server.isListening, hsession]
  exact hlistening

/-! ## The same sessions for the same nodes -/

/-- The part of the standing of a session that messages do not change. -/
def seat? (server : Server) (id : String) : Option (Option Membership × Bool) :=
  (server.standing? id).map Standing.seat

theorem membership?_eq_seat (server : Server) (id : String) :
    server.membership? id = (server.seat? id).bind Prod.fst := by
  rw [membership?_eq, seat?]
  cases server.standing? id <;> rfl

theorem isSome_seat? (server : Server) (id : String) :
    (server.seat? id).isSome = (server.standing? id).isSome :=
  Option.isSome_map

/-- Two servers in which the same sessions speak for the same nodes. -/
structure SameSeats (before after : Server) : Prop where
  senders : after.senders = before.senders
  seat : ∀ id, after.seat? id = before.seat? id

theorem SameSeats.refl (server : Server) : SameSeats server server := ⟨rfl, fun _ => rfl⟩

theorem SameSeats.trans {between : Server} (h : SameSeats before between)
    (h' : SameSeats between after) : SameSeats before after :=
  ⟨h'.senders.trans h.senders, fun id => (h'.seat id).trans (h.seat id)⟩

theorem Quiet.sameSeats (h : Quiet before after) : SameSeats before after :=
  ⟨h.senders, fun id => congrArg (Option.map Standing.seat) (h.standing id)⟩

theorem SameSeats.membership? (h : SameSeats before after) (id : String) :
    after.membership? id = before.membership? id := by
  rw [membership?_eq_seat, h.seat, membership?_eq_seat]

theorem listening_of_seat? (hseat : after.seat? id = before.seat? id)
    (hbefore : ∀ {standing}, before.standing? id = some standing → standing.listening = true)
    {standing : Standing} (hafter : after.standing? id = some standing) :
    standing.listening = true := by
  rw [seat?, hafter] at hseat
  obtain ⟨old, hold, heq⟩ := Option.map_eq_some_iff.1 hseat.symm
  exact (congrArg Prod.snd heq).symm.trans (hbefore hold)

theorem SameSeats.listening (h : SameSeats before after)
    (hbefore : ∀ {standing}, before.standing? id = some standing → standing.listening = true)
    {standing : Standing} (hafter : after.standing? id = some standing) :
    standing.listening = true :=
  listening_of_seat? (h.seat id) hbefore hafter

theorem sameSeats_deliver (message : Message) : SameSeats server (server.deliver id message) := by
  refine ⟨rfl, fun other => ?_⟩
  rw [seat?, standing?_deliver, seat?]
  split
  · rw [Option.map_map]
    exact Option.map_congr fun standing _ => by simp [Standing.seat]
  · rfl

theorem sameSeats_pushRoles (changes : List (String × Assignment)) :
    SameSeats server (server.pushRoles changes) := by
  induction changes generalizing server with
  | nil => exact .refl server
  | cons change rest ih =>
    rw [pushRoles_cons]
    refine SameSeats.trans ?_ ih
    rw [pushRole]
    split
    · exact sameSeats_deliver _
    · exact .refl server

/-- A change of the rooms that keeps the owners of the nodes keeps a server consistent. -/
theorem Consistent.of_sameSeats (h : before.Consistent) (hsame : SameSeats before after)
    (hwf : after.hub.Everywhere Room.WellFormed)
    (howner : ∀ room node, after.hub.owner? room node = before.hub.owner? room node) :
    after.Consistent where
  wellFormed := hwf
  owned howned := by
    rw [howner] at howned
    obtain ⟨id, heq, hm⟩ := h.owned howned
    exact ⟨id, heq, (hsame.membership? id).trans hm⟩
  present hm := by
    rw [hsame.membership?] at hm
    rw [howner]
    exact h.present hm
  sender hm := by
    rw [hsame.membership?] at hm
    rw [hsame.senders]
    exact h.sender hm
  listening := hsame.listening h.listening

theorem Consistent.quiet (h : before.Consistent) (hquiet : Quiet before after) :
    after.Consistent := by
  refine h.of_sameSeats hquiet.sameSeats ?_ fun room node => ?_
  · rw [hquiet.hub]
    exact h.wellFormed
  · rw [hquiet.hub]

/-! ## Rooms in a new state -/

/-- The server with a room in a new state. -/
def revised (server : Server) (id : String) (room : Room Float) : Server :=
  { server with hub := server.hub.withRoom id room }

theorem sameSeats_withHub (hub : Hub Float) : SameSeats server { server with hub } :=
  ⟨rfl, fun _ => rfl⟩

theorem sameSeats_revised (id : String) (room : Room Float) :
    SameSeats server (server.revised id room) :=
  sameSeats_withHub _

theorem Consistent.revised (h : server.Consistent) {roomId : String}
    (hroom : server.hub.rooms.get? roomId = some room) {revision : Room Float}
    (hwf : revision.WellFormed) (howner : ∀ id, revision.owner? id = room.owner? id) :
    (server.revised roomId revision).Consistent := by
  refine h.of_sameSeats (sameSeats_revised roomId revision)
    (h.wellFormed.withRoom hwf roomId) fun otherRoom other => ?_
  exact Hub.look_withRoom_congr hroom (howner other)

theorem get?_revised (roomId : String) (room : Room Float) :
    (server.revised roomId room).hub.rooms.get? roomId = some room :=
  Hub.get?_withRoom_self ..

theorem Consistent.withFresh (h : server.Consistent)
    (hroom : server.hub.rooms.get? m.room = some room)
    (hnode : room.nodes.contains m.node = true) (stream : String) (media : MediaKind) :
    (server.revised m.room (room.withFresh stream m.node media)).Consistent :=
  h.revised hroom ((h.wellFormed m.room room hroom).withFresh hnode) fun _ => rfl

theorem Consistent.reporting (h : server.Consistent)
    (hroom : server.hub.rooms.get? m.room = some room) (load : Load Float) (now : Instant) :
    (server.revised m.room (room.reporting m.node load now)).Consistent :=
  h.revised hroom (h.wellFormed m.room room hroom).reporting fun _ => Room.owner?_reporting

/-- Rebalancing a room that exists puts it into the state after the pass, and pushes the changes of
the pass. -/
theorem rebalance_of_get? {roomId : String} (hroom : server.hub.rooms.get? roomId = some room) :
    server.rebalance roomId =
      (server.revised roomId (room.rebalance server.hub.policy).2).pushRoles
        (room.rebalance server.hub.policy).1 := by
  rw [Server.rebalance, Hub.rebalance_of_get? hroom]
  rfl

theorem rebalance_of_get?_eq_none {roomId : String}
    (hroom : server.hub.rooms.get? roomId = none) : server.rebalance roomId = server := by
  rw [Server.rebalance, Hub.rebalance_of_get?_eq_none hroom]

theorem sameSeats_rebalance (roomId : String) :
    SameSeats server (server.rebalance roomId) := by
  cases hroom : server.hub.rooms.get? roomId with
  | none =>
    rw [rebalance_of_get?_eq_none hroom]
    exact .refl server
  | some room =>
    rw [rebalance_of_get? hroom]
    exact (sameSeats_revised roomId _).trans (sameSeats_pushRoles _)

theorem Consistent.rebalance (h : server.Consistent) (roomId : String) :
    (server.rebalance roomId).Consistent := by
  cases hroom : server.hub.rooms.get? roomId with
  | none =>
    rw [rebalance_of_get?_eq_none hroom]
    exact h
  | some room =>
    have hwf : (room.rebalance server.hub.policy).2.WellFormed :=
      Room.upkept_wellFormed.rebalance (h.wellFormed roomId room hroom)
    have hrevised := h.revised hroom hwf fun id => Room.owner?_rebalance
    rw [rebalance_of_get? hroom]
    refine hrevised.of_sameSeats (sameSeats_pushRoles _) ?_ fun otherRoom other => ?_
    · rw [hub_pushRoles]
      exact hrevised.wellFormed
    · rw [hub_pushRoles]

/-! ## Decisions about the node of a session -/

/-- The server after the decision about a node, with the session of the node told of it. -/
def decided (server : Server) (id : String) (m : Membership) (room : Room Float)
    (node : Node Float) : Server :=
  (server.revised m.room (room.decided server.hub.policy m.node node)).deliver id
    (Message.role id (room.decision server.hub.policy m.node node))

/-- Decides about a node and tells a session, as a join and a report do. -/
def decideFor (server : Server) (id : String) (m : Membership) : Outcome :=
  match server.hub.evaluate m.room m.node with
  | .error e => server.fails e
  | .ok (assignment, hub) => { server with hub }.send id (Message.role id assignment)

theorem decideFor_of_get? (hroom : server.hub.rooms.get? m.room = some room)
    (hnode : room.nodes.get? m.node = some node) (hlistening : server.isListening id = true) :
    server.decideFor id m = (server.decided id m room node).done := by
  rw [decideFor, Hub.evaluate_of_get? hroom hnode]
  exact if_pos hlistening

theorem Consistent.decided (h : server.Consistent)
    (hroom : server.hub.rooms.get? m.room = some room)
    (hnode : room.nodes.get? m.node = some node) (id : String) :
    (server.decided id m room node).Consistent := by
  have hwf : (room.decided server.hub.policy m.node node).WellFormed :=
    (h.wellFormed m.room room hroom).decided hnode
  have hrevised := h.revised hroom hwf fun other => Room.owner?_assigned hnode _
  exact hrevised.of_sameSeats (sameSeats_deliver _) hrevised.wellFormed fun _ _ => rfl

/-! ## Departures -/

/-- The server after the node of a session has left, before the room is rebalanced. -/
def departed (server : Server) (id : String) (m : Membership) (room : Room Float) : Server :=
  { (server.setMembership id none).removeSender m.node id with
    hub := (server.hub.withRoom m.room (room.withoutNode m.node)).dropIfEmpty m.room }

theorem leaveRoom_of_membership?_eq_none (hm : server.membership? id = none) :
    server.leaveRoom id = server := by
  rw [leaveRoom, hm]

theorem hub_removeSender (node : String) : (server.removeSender node id).hub = server.hub := by
  rw [removeSender]
  split <;> rfl

/-- A session that leaves takes its node out and has the room rebalanced. -/
theorem leaveRoom_of_membership? (hm : server.membership? id = some m)
    (hroom : server.hub.rooms.get? m.room = some room)
    (hnode : room.nodes.get? m.node = some node) (howner : node.session = some id) :
    server.leaveRoom id = (server.departed id m room).rebalance m.room := by
  have hhub : ((server.setMembership id none).removeSender m.node id).hub = server.hub :=
    hub_removeSender m.node
  rw [leaveRoom, hm]
  dsimp only
  rw [hhub, Hub.leaveSession_of_get? hroom hnode howner]
  rfl

theorem standing?_departed :
    (server.departed id m room).standing? other =
      if other = id then (server.standing? other).map (fun s => { s with membership := none })
      else server.standing? other := by
  rw [← standing?_setMembership, departed, removeSender]
  split <;> rfl

theorem membership?_departed :
    (server.departed id m room).membership? other =
      if other = id then none else server.membership? other := by
  rw [membership?_eq, standing?_departed]
  split
  · cases server.standing? other <;> rfl
  · rw [membership?_eq]

theorem senders_departed (hsender : server.senders.get? m.node = some id) :
    (server.departed id m room).senders = server.senders.erase m.node := by
  have hsame : (server.setMembership id none).senders = server.senders := rfl
  rw [departed, removeSender, hsame, if_pos hsender]

theorem Consistent.departed (h : server.Consistent) (hm : server.membership? id = some m)
    (hroom : server.hub.rooms.get? m.room = some room) :
    (server.departed id m room).Consistent where
  wellFormed := by
    have hwf := (h.wellFormed m.room room hroom).withoutNode m.node
    exact (h.wellFormed.withRoom hwf m.room).dropIfEmpty m.room
  owned {otherRoom node owner} howned := by
    have hafter := howned
    rw [Server.departed, Hub.owner?_departed hroom] at hafter
    split at hafter
    · exact nomatch hafter
    · rename_i hne
      obtain ⟨other, heq, hother⟩ := h.owned hafter
      refine ⟨other, heq, ?_⟩
      have hid : other ≠ id := by
        rintro rfl
        rw [hm] at hother
        rw [Option.some.inj hother] at hne
        exact hne ⟨rfl, rfl⟩
      rw [membership?_departed, if_neg hid, hother]
  present {other m'} hother := by
    rw [membership?_departed] at hother
    split at hother
    · exact nomatch hother
    · rename_i hid
      rw [Server.departed, Hub.owner?_departed hroom, if_neg, h.present hother]
      rintro ⟨-, hnode⟩
      exact hid (h.eq_of_node_eq hother hm hnode)
  sender {other m'} hother := by
    rw [membership?_departed] at hother
    split at hother
    · exact nomatch hother
    · rename_i hid
      have hnode : m'.node ≠ m.node := fun heq => hid (h.eq_of_node_eq hother hm heq)
      rw [senders_departed (h.sender hm), Table.get?_erase, if_neg hnode, h.sender hother]
  listening {other standing} hother := by
    rw [standing?_departed] at hother
    split at hother
    · obtain ⟨before, hbefore, rfl⟩ := Option.map_eq_some_iff.1 hother
      have hlistening := h.listening hbefore
      exact hlistening
    · exact h.listening hother

theorem Consistent.leaveRoom (h : server.Consistent) (id : String) :
    (server.leaveRoom id).Consistent := by
  cases hm : server.membership? id with
  | none =>
    rw [leaveRoom_of_membership?_eq_none hm]
    exact h
  | some m =>
    obtain ⟨room, node, hroom, hnode, howner⟩ := h.exists_node hm
    rw [leaveRoom_of_membership? hm hroom hnode howner]
    exact (h.departed hm hroom).rebalance m.room

/-- Whether or not the room still has the node of a session, the session and the registry change in
the same way when it leaves. -/
theorem sameSeats_leaveRoom (hm : server.membership? id = some m) :
    SameSeats ((server.setMembership id none).removeSender m.node id) (server.leaveRoom id) := by
  rw [leaveRoom, hm]
  dsimp only
  split
  · exact (sameSeats_withHub _).trans (sameSeats_rebalance _)
  · exact .refl _

/-- A session that leaves a room has no node any more. -/
theorem seat?_leaveRoom :
    (server.leaveRoom id).seat? other = (server.setMembership id none).seat? other := by
  cases hm : server.membership? id with
  | none =>
    rw [leaveRoom_of_membership?_eq_none hm, seat?, seat?, standing?_setMembership]
    split
    · rename_i heq
      rw [membership?_eq, ← heq] at hm
      cases hstanding : server.standing? other with
      | none => rfl
      | some standing =>
        rw [hstanding] at hm
        exact congrArg some (Prod.ext hm rfl)
    · rfl
  | some m =>
    rw [(sameSeats_leaveRoom hm).seat, removeSender]
    split <;> rfl

theorem membership?_leaveRoom :
    (server.leaveRoom id).membership? other =
      if other = id then none else server.membership? other := by
  rw [membership?_eq_seat, seat?_leaveRoom, ← membership?_eq_seat, membership?_eq,
    standing?_setMembership, membership?_eq]
  split
  · cases server.standing? other <;> rfl
  · rfl

theorem membership?_leaveRoom_self : (server.leaveRoom id).membership? id = none :=
  membership?_leaveRoom.trans (if_pos rfl)

theorem isSome_standing?_leaveRoom :
    ((server.leaveRoom id).standing? other).isSome = (server.standing? other).isSome := by
  rw [← isSome_seat?, seat?_leaveRoom, isSome_seat?, standing?_setMembership]
  split
  · exact Option.isSome_map
  · rfl

/-! ## Arrivals -/

/-- The server after a node has come into a room.  The link of a node that it replaces is closed. -/
def admitted (server : Server) (m : Membership) (node : Node Float) : Server :=
  let arrival := server.hub.join m.room m.node node
  { server with hub := arrival.2 }.closeLinks arrival.1.toList

theorem hub_admitted : (server.admitted m node).hub = (server.hub.join m.room m.node node).2 :=
  (quiet_closeLinks _).hub

theorem senders_admitted : (server.admitted m node).senders = server.senders :=
  (quiet_closeLinks _).senders

theorem standing?_admitted : (server.admitted m node).standing? other = server.standing? other :=
  (quiet_closeLinks _).standing other

/-- The server after a node for a session has come into a room, before it is decided about. -/
def joined (server : Server) (id : String) (m : Membership) (node : Node Float) : Server :=
  ((server.admitted m node).addSender m.node id).setMembership id (some m)

theorem hub_joined : (server.joined id m node).hub = (server.hub.join m.room m.node node).2 :=
  hub_admitted

theorem senders_joined :
    (server.joined id m node).senders = server.senders.insert m.node id := by
  rw [joined, setMembership, modifySession, addSender, senders_admitted]

theorem standing?_joined :
    (server.joined id m node).standing? other =
      if other = id then (server.standing? other).map (fun s => { s with membership := some m })
      else server.standing? other := by
  have hsender : ((server.admitted m node).addSender m.node id).standing? other =
      server.standing? other := standing?_admitted
  rw [joined, standing?_setMembership, hsender]

theorem membership?_joined (hlive : (server.standing? id).isSome = true) :
    (server.joined id m node).membership? other =
      if other = id then some m else server.membership? other := by
  rw [membership?_eq, standing?_joined]
  split
  · rename_i heq
    obtain ⟨standing, hstanding⟩ := Option.isSome_iff_exists.1 hlive
    rw [heq, hstanding]
    rfl
  · rw [membership?_eq]

/-- A session that has no node yet may join under an identifier that no session uses. -/
theorem Consistent.joined (h : server.Consistent) (hlive : (server.standing? id).isSome = true)
    (hnone : server.membership? id = none)
    (hfree : ∀ other m', server.membership? other = some m' → m'.node ≠ m.node)
    (hsession : node.session = some id) (hnew : node.relaying = ∅) :
    (server.joined id m node).Consistent where
  wellFormed := by
    rw [hub_joined]
    refine (Hub.everywhere_join_iff h.wellFormed Room.wellFormed_empty).2 ?_
    exact (h.wellFormed.getD Room.wellFormed_empty m.room).addNode hnew
  owned {otherRoom other owner} howned := by
    rw [hub_joined, Hub.owner?_join] at howned
    split at howned
    · rename_i heq
      refine ⟨id, by rw [← Option.some.inj howned, hsession], ?_⟩
      rw [membership?_joined hlive, if_pos rfl, heq.1, heq.2]
    · obtain ⟨session, heq, hm⟩ := h.owned howned
      refine ⟨session, heq, ?_⟩
      have hid : session ≠ id := by
        rintro rfl
        exact Option.some_ne_none _ (hm.symm.trans hnone)
      rw [membership?_joined hlive, if_neg hid, hm]
  present {other m'} hother := by
    rw [membership?_joined hlive] at hother
    rw [hub_joined, Hub.owner?_join]
    split at hother
    · rename_i heq
      rw [← Option.some.inj hother, if_pos ⟨rfl, rfl⟩, hsession, heq]
    · rw [if_neg fun heq => hfree other m' hother heq.2]
      exact h.present hother
  sender {other m'} hother := by
    rw [membership?_joined hlive] at hother
    rw [senders_joined, Table.get?_insert]
    split at hother
    · rename_i heq
      rw [← Option.some.inj hother, if_pos rfl, heq]
    · rw [if_neg (hfree other m' hother)]
      exact h.sender hother
  listening {other standing} hother := by
    rw [standing?_joined] at hother
    split at hother
    · obtain ⟨before, hbefore, rfl⟩ := Option.map_eq_some_iff.1 hother
      have hlistening := h.listening hbefore
      exact hlistening
    · exact h.listening hother

/-! ## Start and end -/

/-- The server without the record of a session. -/
def erased (server : Server) (id : String) : Server :=
  { server with sessions := server.sessions.erase id }

theorem standing?_erased :
    (server.erased id).standing? other = if other = id then none else server.standing? other := by
  rw [standing?, erased, Table.get?_erase]
  split <;> rfl

theorem membership?_erased (hnone : server.membership? id = none) :
    (server.erased id).membership? other = server.membership? other := by
  rw [membership?_eq, standing?_erased]
  split
  · rename_i heq
    rw [heq, hnone]
    rfl
  · rw [membership?_eq]

/-- A session without a node can go. -/
theorem Consistent.erased (h : server.Consistent) (hnone : server.membership? id = none) :
    (server.erased id).Consistent where
  wellFormed := h.wellFormed
  owned howned := by
    obtain ⟨session, heq, hm⟩ := h.owned howned
    exact ⟨session, heq, (membership?_erased hnone).trans hm⟩
  present hm := by
    rw [membership?_erased hnone] at hm
    exact h.present hm
  sender hm := by
    rw [membership?_erased hnone] at hm
    exact h.sender hm
  listening {other standing} hother := by
    rw [standing?_erased] at hother
    split at hother
    · exact nomatch hother
    · exact h.listening hother

/-- The server with the record of a new session, whose peer takes messages. -/
def opened (server : Server) (id : String) (link : Link) : Server :=
  { server with sessions := server.sessions.insert id { link } }

theorem standing?_opened (link : Link) :
    (server.opened id link).standing? other =
      if other = id then some ⟨none, true, none⟩ else server.standing? other := by
  rw [standing?, opened, Table.get?_insert]
  split <;> rfl

theorem membership?_opened (hnew : server.standing? id = none) (link : Link) :
    (server.opened id link).membership? other = server.membership? other := by
  rw [membership?_eq, standing?_opened, membership?_eq]
  split
  · rename_i heq
    rw [heq, hnew]
    rfl
  · rfl

theorem Consistent.opened (h : server.Consistent) (hnew : server.standing? id = none)
    (link : Link) : (server.opened id link).Consistent where
  wellFormed := h.wellFormed
  owned howned := by
    obtain ⟨session, heq, hm⟩ := h.owned howned
    exact ⟨session, heq, (membership?_opened hnew link).trans hm⟩
  present hm := by
    rw [membership?_opened hnew] at hm
    exact h.present hm
  sender hm := by
    rw [membership?_opened hnew] at hm
    exact h.sender hm
  listening {other standing} hother := by
    rw [standing?_opened] at hother
    split at hother
    · rw [← Option.some.inj hother]
    · exact h.listening hother

end Server

end RelayMesh
