import RelayMesh.Proofs.Run
import RelayMesh.Proofs.Server.Run
import RelayMesh.Proofs.Wire

/-!
# What sessions know about their nodes

A session is told the assignment of its node in `role` messages.
`Server.Informed` says that every session was last told the duty that its node
has now.

A pass over a room pushes the assignments of the nodes that it changes, but
the duty of a node can also change before the pass, when a stream that the
node relays goes with its source or is published anew by another node.  If the
pass then finds that the node has the right role and relays the right
identifiers, it reports nothing, and the session keeps an assignment that is
out of date.  `Room.Overlooks` describes this.

* `knows_rebalance_iff` says what a pass adds to what the sessions know.
* `informed_leaveRoom_iff`, `informed_handlePublish_iff`,
  `informed_handleJoin_iff` and `informed_handleMetrics` do so for what peers
  ask for.
* `informed_along_run_iff` is the result: along a run every session is always
  informed exactly when no step of the run overlooks a node.
-/

namespace RelayMesh

namespace Server

variable {server before after : Server} {id other roomId : String} {m m' : Membership}
  {room : Room Float} {node : Node Float}

/-! ## Sessions that know the duty of their node -/

/-- Every session that owns a node was last told what the node is to do now. -/
def Informed (server : Server) : Prop :=
  ∀ id session roomId room nodeId node, server.sessions.get? id = some session →
    server.hub.rooms.get? roomId = some room → room.nodes.get? nodeId = some node →
    node.session = some id →
    ∃ assignment, session.lastRole = some (Message.role id assignment) ∧
      assignment.SameAs (room.duty node)

/-- The last `role` message that a session was sent. -/
def told? (server : Server) (id : String) : Option Message :=
  (server.standing? id).bind Standing.told

/-- A session was last told the duty of a node. -/
def Knows (server : Server) (id : String) (m : Membership) : Prop :=
  ∃ assignment duty, server.told? id = some (Message.role id assignment) ∧
    server.hub.duty? m.room m.node = some duty ∧ assignment.SameAs duty

/-- In a consistent server, the sessions that own nodes are those with a membership. -/
theorem Consistent.informed_iff (h : server.Consistent) :
    server.Informed ↔ ∀ id m, server.membership? id = some m → server.Knows id m := by
  constructor
  · intro hinformed id m hm
    obtain ⟨room, node, hroom, hnode, howner⟩ := h.exists_node hm
    obtain ⟨standing, hstanding, -⟩ := exists_standing hm
    obtain ⟨session, hsession, rfl⟩ := Option.map_eq_some_iff.1 hstanding
    obtain ⟨assignment, htold, hsame⟩ :=
      hinformed id session m.room room m.node node hsession hroom hnode howner
    refine ⟨assignment, room.duty node, ?_, ?_, hsame⟩
    · rw [told?, hstanding]
      exact htold
    · exact Hub.duty?_of_get? hroom hnode
  · intro hknows id session roomId room nodeId node hsession hroom hnode howner
    have howned : server.hub.owner? roomId nodeId = some (some id) :=
      (Hub.owner?_of_get? hroom hnode).trans (congrArg some howner)
    obtain ⟨owner, heq, hm⟩ := h.owned howned
    rw [← Option.some.inj heq] at hm
    obtain ⟨assignment, duty, htold, hduty, hsame⟩ := hknows id ⟨roomId, nodeId⟩ hm
    rw [Hub.duty?_of_get? hroom hnode] at hduty
    rw [← Option.some.inj hduty] at hsame
    refine ⟨assignment, ?_, hsame⟩
    rw [told?, standing?, hsession] at htold
    exact htold

theorem knows_congr (htold : after.told? id = before.told? id)
    (hduty : after.hub.duty? m.room m.node = before.hub.duty? m.room m.node) :
    after.Knows id m ↔ before.Knows id m := by
  rw [Knows, htold, hduty, Knows]

/-- What a session was told does not change by itself, so the session still knows the duty of its
node exactly when the duty is the same. -/
theorem knows_iff_sameAs {old new : Assignment} (hknows : before.Knows id m)
    (htold : after.told? id = before.told? id)
    (hold : before.hub.duty? m.room m.node = some old)
    (hnew : after.hub.duty? m.room m.node = some new) :
    after.Knows id m ↔ old.SameAs new := by
  obtain ⟨assignment, duty, hlast, hduty, hsame⟩ := hknows
  rw [hold] at hduty
  rw [← Option.some.inj hduty] at hsame
  constructor
  · rintro ⟨told, duty', htold', hduty', hsame'⟩
    rw [htold, hlast] at htold'
    rw [hnew] at hduty'
    rw [← Message.role_injective id (Option.some.inj htold'), ← Option.some.inj hduty'] at hsame'
    exact hsame.symm.trans hsame'
  · intro hstays
    exact ⟨assignment, new, htold.trans hlast, hnew, hsame.trans hstays⟩

theorem Quiet.told? (h : Quiet before after) (id : String) : after.told? id = before.told? id := by
  rw [Server.told?, h.standing, Server.told?]

theorem Consistent.informed_quiet_iff (h : before.Consistent) (hquiet : Quiet before after) :
    after.Informed ↔ before.Informed := by
  rw [(h.quiet hquiet).informed_iff, h.informed_iff]
  refine forall₂_congr fun id m => ?_
  rw [hquiet.sameSeats.membership?]
  exact forall_congr' fun _ => knows_congr (hquiet.told? id) (by rw [hquiet.hub])

/-! ## Passes -/

/-- A change that concerns a session is one of the node that the session speaks for. -/
theorem Consistent.membership?_of_change (h : server.Consistent)
    (hroom : server.hub.rooms.get? roomId = some room) {change : String × Assignment}
    (hchange : change ∈ (room.rebalance server.hub.policy).1)
    (hsender : server.senders.get? change.1 = some id) :
    server.membership? id = some ⟨roomId, change.1⟩ := by
  obtain ⟨node, hnode⟩ := Table.mem_keys.1 (Room.mem_of_mem_evaluateAll hchange)
  obtain ⟨owner, -, hm⟩ := h.owned (Hub.owner?_of_get? hroom hnode)
  have heq := (h.sender hm).symm.trans hsender
  rw [← Option.some.inj heq]
  exact hm

/-- A session whose node the pass does not report is told nothing. -/
theorem Consistent.told?_rebalance_of_not_mem (h : server.Consistent)
    (hroom : server.hub.rooms.get? roomId = some room) (hm : server.membership? id = some m)
    (hnot : m.room = roomId → m.node ∉ room.reported server.hub.policy) :
    (server.rebalance roomId).told? id = server.told? id := by
  rw [rebalance_of_get? hroom, told?, standing?_pushRoles_of_forall_ne]
  · rfl
  · intro change hchange hsender
    have hm' := h.membership?_of_change hroom hchange hsender
    rw [hm] at hm'
    rw [Option.some.inj hm'] at hnot
    exact hnot rfl (List.mem_map_of_mem hchange)

/-- A session whose node the pass reports is told what the node keeps. -/
theorem Consistent.told?_rebalance_of_mem (h : server.Consistent)
    (hroom : server.hub.rooms.get? m.room = some room) (hm : server.membership? id = some m)
    {kept : Assignment} (hkept : (m.node, kept) ∈ (room.rebalance server.hub.policy).1)
    (honly : ∀ assignment, (m.node, assignment) ∈ (room.rebalance server.hub.policy).1 →
      assignment = kept) :
    (server.rebalance m.room).told? id = some (Message.role id kept) := by
  obtain ⟨standing, hstanding, -⟩ := exists_standing hm
  have hstands : (server.revised m.room (room.rebalance server.hub.policy).2).standing? id =
      some standing := hstanding
  have hsender : (server.revised m.room (room.rebalance server.hub.policy).2).senders.get? m.node =
      some id := h.sender hm
  rw [rebalance_of_get? hroom, told?, standing?_pushRoles_of_mem hkept hsender, hstands]
  · exact Standing.told_hear_role (h.listening hstanding) id kept
  · intro change hchange hown
    have hm' := h.membership?_of_change hroom hchange hown
    rw [hm] at hm'
    have hnodes : m.node = change.1 := congrArg Membership.node (Option.some.inj hm')
    rw [hnodes] at honly ⊢
    exact Prod.ext rfl (honly change.2 hchange)

theorem duty?_rebalance (hroom : server.hub.rooms.get? roomId = some room) (m : Membership) :
    (server.rebalance roomId).hub.duty? m.room m.node =
      if m.room = roomId then (room.rebalance server.hub.policy).2.duty? m.node
      else server.hub.duty? m.room m.node := by
  rw [rebalance_of_get? hroom, hub_pushRoles, Server.revised, Hub.duty?, Hub.look_withRoom]

/-- After a pass a session knows the duty of its node if the pass reports the node, or if the
session knew the duty before. -/
theorem Consistent.knows_rebalance_iff (h : server.Consistent)
    (hroom : server.hub.rooms.get? roomId = some room) (hm : server.membership? id = some m) :
    (server.rebalance roomId).Knows id m ↔
      server.Knows id m ∨ m.room = roomId ∧ m.node ∈ room.reported server.hub.policy := by
  have hduty := duty?_rebalance hroom m
  by_cases hhere : m.room = roomId
  · subst hhere
    obtain ⟨node, hnode⟩ := h.exists_node_of_room hm rfl hroom
    obtain ⟨result, hresult, -, hpassed⟩ := Room.rebalance_passed server.hub.policy hnode
    rw [if_pos rfl, Room.duty?_of_get? hresult] at hduty
    cases hpassed with
    | told kept hkept honly hsame =>
      have htold := h.told?_rebalance_of_mem hroom hm hkept honly
      exact iff_of_true ⟨kept, _, htold, hduty, hsame⟩ (.inr ⟨rfl, List.mem_map_of_mem hkept⟩)
    | silent hnot hsame =>
      have htold := h.told?_rebalance_of_not_mem hroom hm fun _ => hnot
      rw [hsame, ← Hub.duty?_of_get? hroom hnode] at hduty
      rw [knows_congr htold hduty]
      simp [hnot]
  · have htold := h.told?_rebalance_of_not_mem hroom hm fun heq => absurd heq hhere
    rw [if_neg hhere] at hduty
    rw [knows_congr htold hduty]
    simp [hhere]

/-- A pass never makes a session forget. -/
theorem Consistent.informed_rebalance (h : server.Consistent) (hinformed : server.Informed)
    (roomId : String) : (server.rebalance roomId).Informed := by
  cases hroom : server.hub.rooms.get? roomId with
  | none =>
    rw [rebalance_of_get?_eq_none hroom]
    exact hinformed
  | some room =>
    refine (h.rebalance roomId).informed_iff.2 fun other m' hother => ?_
    rw [(sameSeats_rebalance roomId).membership?] at hother
    exact (h.knows_rebalance_iff hroom hother).2 (.inl (h.informed_iff.1 hinformed other m' hother))

end Server

/-! ## Nodes that a pass overlooks -/

namespace Room

variable {α : Type} {room : Room α} {id : String} {node : Node α} {lost : String → Bool}

/-- A node relays one of the streams that the room loses. -/
def Loses (room : Room α) (lost : String → Bool) (id : String) : Prop :=
  ∃ node stream, room.nodes.get? id = some node ∧ node.relays stream = true ∧ lost stream = true

theorem not_loses_iff (hnode : room.nodes.get? id = some node) :
    ¬room.Loses lost id ↔ ∀ stream, node.relays stream = true → lost stream = false := by
  constructor
  · intro h stream hrelays
    exact Bool.eq_false_iff.2 fun hlost => h ⟨node, stream, hnode, hrelays, hlost⟩
  · rintro h ⟨other, stream, hother, hrelays, hlost⟩
    rw [Option.some.inj (hother.symm.trans hnode)] at hrelays
    exact Bool.false_ne_true ((h stream hrelays).symm.trans hlost)

/-- A room loses streams, and the pass that follows leaves a node as it is that relayed one of them:
the node goes on with the same role and the same identifiers, but not with the same streams. -/
def Overlooks [Scalar α] (policy : Policy α) (room after : Room α) (lost : String → Bool) : Prop :=
  ∃ id, room.Loses lost id ∧ after.nodes.contains id = true ∧ id ∉ after.reported policy

end Room

namespace Server

variable {server before after : Server} {id other roomId : String} {m m' : Membership}
  {room : Room Float} {node : Node Float} {lost : String → Bool}

/-- A pass completes what the sessions know exactly when it overlooks no node, if the sessions that
do not know the duty of their node before it are those whose nodes have lost a stream. -/
theorem Consistent.informed_rebalance_iff (h : server.Consistent) {revision : Room Float}
    (hroom : server.hub.rooms.get? roomId = some revision)
    (hknows : ∀ id m, server.membership? id = some m →
      (server.Knows id m ↔ ¬(m.room = roomId ∧ room.Loses lost m.node))) :
    (server.rebalance roomId).Informed ↔
      ¬Room.Overlooks server.hub.policy room revision lost := by
  rw [(h.rebalance roomId).informed_iff]
  constructor
  · rintro hinformed ⟨nodeId, hloses, hstays, hnot⟩
    obtain ⟨node, hnode⟩ := Table.contains_iff.1 hstays
    obtain ⟨id, -, hm⟩ := h.owned (Hub.owner?_of_get? hroom hnode)
    have hafter := hinformed id ⟨roomId, nodeId⟩
      (((sameSeats_rebalance roomId).membership? id).trans hm)
    rcases (h.knows_rebalance_iff hroom hm).1 hafter with hknown | ⟨-, hreported⟩
    · exact (hknows id _ hm).1 hknown ⟨rfl, hloses⟩
    · exact hnot hreported
  · intro hnone id m hm
    rw [(sameSeats_rebalance roomId).membership?] at hm
    refine (h.knows_rebalance_iff hroom hm).2 (or_iff_not_imp_right.2 fun hnot => ?_)
    refine (hknows id m hm).2 ?_
    rintro ⟨rfl, hloses⟩
    obtain ⟨node, hnode⟩ := h.exists_node_of_room hm rfl hroom
    exact hnone ⟨m.node, hloses, Table.contains_iff.2 ⟨node, hnode⟩,
      fun hreported => hnot ⟨rfl, hreported⟩⟩

/-! ## Departures -/

theorem told?_departed : (server.departed id m room).told? other = server.told? other := by
  rw [told?, standing?_departed, told?]
  split
  · cases server.standing? other <;> rfl
  · rfl

/-- A session still knows the duty of its node after a departure unless the node relayed a stream of
the one that left. -/
theorem Consistent.knows_departed_iff (h : server.Consistent)
    (hm : server.membership? id = some m) (hroom : server.hub.rooms.get? m.room = some room)
    (hother : server.membership? other = some m') (hne : other ≠ id)
    (hknows : server.Knows other m') :
    (server.departed id m room).Knows other m' ↔
      ¬(m'.room = m.room ∧ room.Loses (room.publishes m.node) m'.node) := by
  have hduty : (server.departed id m room).hub.duty? m'.room m'.node =
      if m'.room = m.room then (room.withoutNode m.node).duty? m'.node
      else server.hub.duty? m'.room m'.node := by
    rw [Server.departed, Hub.duty?, Hub.look_dropIfEmpty, Hub.look_withRoom]
  by_cases hhere : m'.room = m.room
  · obtain ⟨node, hnode⟩ := h.exists_node_of_room hother hhere hroom
    have hnodes : m'.node ≠ m.node := fun heq => hne (h.eq_of_node_eq hother hm heq)
    have hafter : (room.withoutNode m.node).nodes.get? m'.node =
        some (node.without (room.publishes m.node)) := by
      rw [Room.get?_nodes_withoutNode, if_neg hnodes, hnode]
      rfl
    have hbefore : server.hub.duty? m'.room m'.node = some (room.duty node) := by
      rw [hhere, Hub.duty?_of_get? hroom hnode]
    rw [if_pos hhere, Room.duty?_of_get? hafter] at hduty
    rw [knows_iff_sameAs hknows told?_departed hbefore hduty, Room.sameAs_duty_withoutNode_iff,
      ← Room.not_loses_iff hnode]
    simp [hhere]
  · rw [if_neg hhere] at hduty
    refine iff_of_true ((knows_congr told?_departed hduty).2 hknows) ?_
    exact fun hlost => hhere hlost.1

/-- The node of a session leaves, and the pass that follows overlooks a node that relayed one of its
streams. -/
def DepartureOverlooks (server : Server) (id : String) : Prop :=
  ∃ m room, server.membership? id = some m ∧ server.hub.rooms.get? m.room = some room ∧
    room.Overlooks server.hub.policy (room.withoutNode m.node) (room.publishes m.node)

theorem departureOverlooks_iff (hm : server.membership? id = some m)
    (hroom : server.hub.rooms.get? m.room = some room) :
    server.DepartureOverlooks id ↔
      room.Overlooks server.hub.policy (room.withoutNode m.node) (room.publishes m.node) := by
  constructor
  · rintro ⟨m', found, hm', hfound, h⟩
    rw [hm] at hm'
    rw [← Option.some.inj hm', hroom] at hfound
    rw [← Option.some.inj hm', ← Option.some.inj hfound] at h
    exact h
  · intro h
    exact ⟨m, room, hm, hroom, h⟩

theorem Consistent.informed_leaveRoom_iff (h : server.Consistent) (hinformed : server.Informed) :
    (server.leaveRoom id).Informed ↔ ¬server.DepartureOverlooks id := by
  cases hm : server.membership? id with
  | none =>
    rw [leaveRoom_of_membership?_eq_none hm]
    refine iff_of_true hinformed ?_
    rintro ⟨m, room, hm', -⟩
    exact Option.some_ne_none _ (hm'.symm.trans hm)
  | some m =>
    obtain ⟨room, node, hroom, hnode, howner⟩ := h.exists_node hm
    have hdeparted := h.departed hm hroom
    have hknows : ∀ other m', (server.departed id m room).membership? other = some m' →
        ((server.departed id m room).Knows other m' ↔
          ¬(m'.room = m.room ∧ room.Loses (room.publishes m.node) m'.node)) := by
      intro other m' hother
      rw [membership?_departed] at hother
      split at hother
      · exact nomatch hother
      · rename_i hne
        exact h.knows_departed_iff hm hroom hother hne (h.informed_iff.1 hinformed other m' hother)
    have hpolicy : (server.departed id m room).hub.policy = server.hub.policy :=
      Hub.policy_dropIfEmpty ..
    have hrest : (server.departed id m room).hub.rooms.get? m.room =
        if (room.withoutNode m.node).nodes.isEmpty then none
        else some (room.withoutNode m.node) := Hub.get?_withRoom_dropIfEmpty
    rw [leaveRoom_of_membership? hm hroom hnode howner, departureOverlooks_iff hm hroom, ← hpolicy]
    split at hrest
    · -- the last node has left, so there is no pass and nobody to overlook
      rename_i hempty
      rw [rebalance_of_get?_eq_none hrest, hdeparted.informed_iff]
      refine iff_of_true (fun other m' hother => (hknows other m' hother).2 ?_) ?_
      · rintro ⟨hhere, -⟩
        obtain ⟨found, -, hfound, -⟩ := hdeparted.exists_node hother
        rw [hhere, hrest] at hfound
        exact nomatch hfound
      · rintro ⟨nodeId, -, hstays, -⟩
        rw [Table.isEmpty_iff.1 hempty] at hstays
        exact nomatch hstays
    · exact hdeparted.informed_rebalance_iff hrest hknows

/-! ## New streams -/

/-- A session publishes a stream anew that another node published, and the pass that follows
overlooks a node that relayed it. -/
def PublicationOverlooks (server : Server) (id : String) (request : PublishRequest) : Prop :=
  ∃ m room, server.membership? id = some m ∧ server.hub.rooms.get? m.room = some room ∧
    room.publishes m.node request.stream = false ∧
    room.Overlooks server.hub.policy (room.withFresh request.stream m.node request.media)
      (fun stream => stream = request.stream)

theorem publicationOverlooks_iff {request : PublishRequest} (hm : server.membership? id = some m)
    (hroom : server.hub.rooms.get? m.room = some room) :
    server.PublicationOverlooks id request ↔
      room.publishes m.node request.stream = false ∧
        room.Overlooks server.hub.policy (room.withFresh request.stream m.node request.media)
          (fun stream => stream = request.stream) := by
  constructor
  · rintro ⟨m', found, hm', hfound, h⟩
    rw [hm] at hm'
    rw [← Option.some.inj hm', hroom] at hfound
    rw [← Option.some.inj hm', ← Option.some.inj hfound] at h
    exact h
  · intro h
    exact ⟨m, room, hm, hroom, h⟩

theorem told?_revised : (server.revised roomId room).told? id = server.told? id := rfl

theorem duty?_revised (m : Membership) :
    (server.revised roomId room).hub.duty? m.room m.node =
      if m.room = roomId then room.duty? m.node else server.hub.duty? m.room m.node := by
  rw [revised, Hub.duty?, Hub.look_withRoom]

/-- A session still knows the duty of its node after a stream is new to its source unless the node
relayed the stream that was there. -/
theorem Consistent.knows_withFresh_iff (h : server.Consistent)
    (hroom : server.hub.rooms.get? roomId = some room) {stream source : String} {media : MediaKind}
    (hnew : room.publishes source stream = false) (hm : server.membership? id = some m)
    (hknows : server.Knows id m) :
    (server.revised roomId (room.withFresh stream source media)).Knows id m ↔
      ¬(m.room = roomId ∧ room.Loses (fun name => name = stream) m.node) := by
  have hduty : (server.revised roomId (room.withFresh stream source media)).hub.duty? _ _ = _ :=
    duty?_revised m
  by_cases hhere : m.room = roomId
  · subst hhere
    obtain ⟨node, hnode⟩ := h.exists_node_of_room hm rfl hroom
    have hafter : (room.withFresh stream source media).nodes.get? m.node = some node := hnode
    rw [if_pos rfl, Room.duty?_of_get? hafter] at hduty
    rw [knows_iff_sameAs hknows told?_revised (Hub.duty?_of_get? hroom hnode) hduty,
      Room.sameAs_duty_withFresh_iff (h.wellFormed m.room room hroom) hnode hnew, not_and]
    rw [forall_prop_of_true rfl, Room.not_loses_iff hnode]
    constructor
    · intro hnot name hrelays
      refine decide_eq_false fun heq => ?_
      rw [heq, hnot] at hrelays
      exact Bool.false_ne_true hrelays
    · intro hall
      exact Bool.eq_false_iff.2 fun hrelays => by simpa using hall stream hrelays
  · rw [if_neg hhere] at hduty
    exact iff_of_true ((knows_congr told?_revised hduty).2 hknows) fun hlost => hhere hlost.1

theorem Consistent.informed_handlePublish_iff (h : server.Consistent)
    (hinformed : server.Informed) (request : PublishRequest) :
    (server.handlePublish id request).server.Informed ↔
      ¬server.PublicationOverlooks id request := by
  cases hm : server.membership? id with
  | none =>
    rw [Server.handlePublish, hm]
    refine iff_of_true hinformed ?_
    rintro ⟨m, room, hm', -⟩
    exact Option.some_ne_none _ (hm'.symm.trans hm)
  | some m =>
    obtain ⟨room, node, hroom, hnode, -⟩ := h.exists_node hm
    have hcontains := Table.contains_iff.2 ⟨node, hnode⟩
    have hknows := h.informed_iff.1 hinformed
    rw [publicationOverlooks_iff hm hroom]
    cases hpublishes : room.publishes m.node request.stream with
    | false =>
      have hafter : ∀ other m', (server.revised m.room
          (room.withFresh request.stream m.node request.media)).membership? other = some m' →
          ((server.revised m.room
            (room.withFresh request.stream m.node request.media)).Knows other m' ↔
            ¬(m'.room = m.room ∧ room.Loses (fun name => name = request.stream) m'.node)) := by
        intro other m' hother
        rw [(sameSeats_revised m.room _).membership?] at hother
        exact h.knows_withFresh_iff hroom hpublishes hother (hknows other m' hother)
      have hfresh := h.withFresh hroom hcontains request.stream request.media
      rw [handlePublish_of_fresh hm hroom hcontains hpublishes, eq_self_iff_true, true_and]
      exact hfresh.informed_rebalance_iff (get?_revised m.room _) hafter
    | true =>
      rw [handlePublish_of_publishes hm hroom hcontains hpublishes]
      refine iff_of_true (h.informed_rebalance hinformed m.room) ?_
      exact fun hoverlooks => Bool.false_ne_true hoverlooks.1.symm

/-! ## Decisions -/

theorem told?_deliver_of_ne {message : Message} (hne : other ≠ id) :
    (server.deliver id message).told? other = server.told? other := by
  rw [told?, standing?_deliver, if_neg hne, told?]

theorem sameSeats_decided (id : String) (m : Membership) (room : Room Float)
    (node : Node Float) : SameSeats server (server.decided id m room node) :=
  (sameSeats_revised _ _).trans (sameSeats_deliver _)

/-- The session of a node that is decided about knows the duty of the node. -/
theorem Consistent.knows_decided_self (h : server.Consistent)
    (hm : server.membership? id = some m) :
    (server.decided id m room node).Knows id m := by
  obtain ⟨standing, hstanding, -⟩ := exists_standing hm
  refine ⟨room.decision server.hub.policy m.node node,
    (room.decided server.hub.policy m.node node).duty (node.assign
      (room.decision server.hub.policy m.node node).role
      (room.decision server.hub.policy m.node node).streamIds), ?_, ?_, ?_⟩
  · have hstands : (server.revised m.room
        (room.decided server.hub.policy m.node node)).standing? id = some standing := hstanding
    rw [Server.decided, told?, standing?_deliver, if_pos rfl, hstands]
    exact Standing.told_hear_role (h.listening hstanding) id _
  · refine (duty?_revised m).trans ?_
    rw [if_pos rfl, Room.duty?_of_get?]
    rw [Room.decided, Room.get?_nodes_assigned, if_pos rfl]
  · exact (room.offers_decision server.hub.policy m.node node).sameAs_duty
      (Room.streamInfos_assigned _)

/-- A decision about the node of one session leaves what the others know. -/
theorem Consistent.knows_decided_of_ne (h : server.Consistent)
    (hroom : server.hub.rooms.get? m.room = some room) (hm : server.membership? id = some m)
    (hother : server.membership? other = some m') (hne : other ≠ id) :
    (server.decided id m room node).Knows other m' ↔ server.Knows other m' := by
  refine knows_congr (told?_deliver_of_ne hne) ((duty?_revised m').trans ?_)
  split
  · rename_i hhere
    have hnodes : m'.node ≠ m.node := fun heq => hne (h.eq_of_node_eq hother hm heq)
    rw [Room.decided, Room.duty?_assigned hnodes, hhere, Hub.duty?, Hub.look_of_get? hroom]
  · rfl

/-- After a decision about the node of one session, all are informed if the others were. -/
theorem Consistent.informed_decided_iff (h : server.Consistent)
    (hroom : server.hub.rooms.get? m.room = some room)
    (hnode : room.nodes.get? m.node = some node) (hm : server.membership? id = some m) :
    (server.decided id m room node).Informed ↔
      ∀ other m', server.membership? other = some m' → other ≠ id → server.Knows other m' := by
  rw [(h.decided hroom hnode id).informed_iff]
  constructor
  · intro hinformed other m' hother hne
    have hafter := hinformed other m'
      (((sameSeats_decided id m room node).membership? other).trans hother)
    exact (h.knows_decided_of_ne hroom hm hother hne).1 hafter
  · intro hknows other m' hother
    rw [(sameSeats_decided id m room node).membership?] at hother
    by_cases hself : other = id
    · subst hself
      rw [Option.some.inj (hother.symm.trans hm)]
      exact h.knows_decided_self hm
    · exact (h.knows_decided_of_ne hroom hm hother hself).2 (hknows other m' hother hself)

theorem Consistent.informed_handleMetrics (h : server.Consistent) (hinformed : server.Informed)
    (load : Load Float) (now : Instant) :
    (server.handleMetrics id load now).server.Informed := by
  cases hm : server.membership? id with
  | none =>
    rw [Server.handleMetrics, hm]
    exact hinformed
  | some m =>
    obtain ⟨room, node, hroom, hnode, -⟩ := h.exists_node hm
    have hreporting := h.reporting hroom load now
    have hseats : SameSeats server (server.revised m.room (room.reporting m.node load now)) :=
      sameSeats_revised _ _
    have hsame : (server.revised m.room (room.reporting m.node load now)).Informed := by
      refine hreporting.informed_iff.2 fun other m' hother => ?_
      rw [hseats.membership?] at hother
      refine (knows_congr told?_revised ?_).2 (h.informed_iff.1 hinformed other m' hother)
      exact Hub.look_withRoom_congr hroom Room.duty?_reporting
    have hnode' : (room.reporting m.node load now).nodes.get? m.node =
        some (node.report load now) := Room.get?_nodes_reporting hnode
    have hm' := (hseats.membership? id).trans hm
    have hdecided := (hreporting.informed_decided_iff (get?_revised _ _) hnode' hm').2
      fun other m' hother _ => hreporting.informed_iff.1 hsame other m' hother
    rw [handleMetrics_eq h hm hroom hnode]
    exact (hreporting.decided (get?_revised _ _) hnode' id).informed_rebalance hdecided m.room

/-! ## Arrivals -/

theorem told?_joined_of_ne (hne : other ≠ id) :
    (server.joined id m node).told? other = server.told? other := by
  rw [told?, standing?_joined, if_neg hne, told?]

/-- A session that joins is told at once, so after a join all are informed exactly if they were when
the session had left the room that it was in. -/
theorem Consistent.informed_handleJoin_iff (h : server.Consistent) {request : JoinRequest}
    {now : Instant} (hlive : server.isLive id = true)
    (hdistinct : (server.handleJoin id request now).server.DistinctNodes) :
    (server.handleJoin id request now).server.Informed ↔ (server.leaveRoom id).Informed := by
  have hleft := h.leaveRoom id
  have hjoined := h.joined_leaveRoom hlive hdistinct
  have hmembership : ((server.leaveRoom id).joined id (request.membership id)
      (request.arrival id now)).membership? id = some (request.membership id) :=
    (membership?_joined_leaveRoom hlive).trans (if_pos rfl)
  have hmembers : ∀ other, other ≠ id → ((server.leaveRoom id).joined id (request.membership id)
      (request.arrival id now)).membership? other = (server.leaveRoom id).membership? other := by
    intro other hne
    rw [membership?_joined_leaveRoom hlive, membership?_leaveRoom, if_neg hne, if_neg hne]
  have hknows : ∀ other m', (server.leaveRoom id).membership? other = some m' → other ≠ id →
      (((server.leaveRoom id).joined id (request.membership id)
        (request.arrival id now)).Knows other m' ↔ (server.leaveRoom id).Knows other m') := by
    intro other m' hother hne
    refine knows_congr (told?_joined_of_ne hne) ?_
    rw [hub_joined, Hub.duty?_join]
    exact fun heq => free_of_distinct hlive hdistinct other m' hother heq.2
  obtain ⟨room, node, hroom, hnode, heq⟩ := hjoined.decideFor_eq hmembership
  rw [handleJoin_eq, heq]
  refine (hjoined.informed_decided_iff hroom hnode hmembership).trans ?_
  rw [hleft.informed_iff]
  constructor
  · intro hall other m' hother
    have hne : other ≠ id := by
      rintro rfl
      rw [membership?_leaveRoom_self] at hother
      exact nomatch hother
    exact (hknows other m' hother hne).1 (hall other m' ((hmembers other hne).trans hother) hne)
  · intro hall other m' hother hne
    rw [hmembers other hne] at hother
    exact (hknows other m' hother hne).2 (hall other m' hother)

/-! ## Start and end -/

theorem Consistent.informed_erased_iff (h : server.Consistent)
    (hnone : server.membership? id = none) : (server.erased id).Informed ↔ server.Informed := by
  rw [(h.erased hnone).informed_iff, h.informed_iff]
  refine forall₂_congr fun other m => ?_
  rw [membership?_erased hnone]
  refine forall_congr' fun hother => knows_congr ?_ rfl
  have hne : other ≠ id := by
    rintro rfl
    exact Option.some_ne_none _ (hother.symm.trans hnone)
  rw [told?, standing?_erased, if_neg hne, told?]

theorem Consistent.informed_opened_iff (h : server.Consistent)
    (hnew : server.standing? id = none) (link : Link) :
    (server.opened id link).Informed ↔ server.Informed := by
  rw [(h.opened hnew link).informed_iff, h.informed_iff]
  refine forall₂_congr fun other m => ?_
  rw [membership?_opened hnew]
  refine forall_congr' fun hother => knows_congr ?_ rfl
  have hne : other ≠ id := by
    rintro rfl
    obtain ⟨standing, hstanding, -⟩ := exists_standing hother
    exact Option.some_ne_none _ (hstanding.symm.trans hnew)
  rw [told?, standing?_opened, if_neg hne, told?]

theorem informed_new (engine : MediaEngine) (options : LinkOptions) (policy : Policy Float) :
    (new engine options policy).Informed :=
  fun _ _ _ _ _ _ hsession => nomatch hsession

/-! ## Steps -/

/-- What a peer asks for lets a pass overlook a node: the node of the peer leaves, perhaps for
another room, or the peer publishes a stream of another node anew. -/
def RequestOverlooks (server : Server) (id : String) : Inbound → Prop
  | .join _ | .leave => server.DepartureOverlooks id
  | .publish request => server.PublicationOverlooks id request
  | _ => False

/-- An event lets a pass overlook a node. -/
def Overlooks (server : Server) : SessionEvent → Prop
  | .start .. => False
  | .message id _ message =>
    ∃ inbound, message.inbound = .ok inbound ∧ server.RequestOverlooks id inbound
  | .finish id => server.DepartureOverlooks id

theorem isLive_of_departureOverlooks (h : server.DepartureOverlooks id) :
    server.isLive id = true := by
  obtain ⟨m, room, hm, -⟩ := h
  exact isLive_of_membership? hm

theorem isLive_of_requestOverlooks {inbound : Inbound} (h : server.RequestOverlooks id inbound) :
    server.isLive id = true := by
  cases inbound with
  | join => exact isLive_of_departureOverlooks h
  | leave => exact isLive_of_departureOverlooks h
  | publish =>
    obtain ⟨m, room, hm, -⟩ := h
    exact isLive_of_membership? hm
  | _ => exact h.elim

theorem Consistent.informed_react_iff (h : server.Consistent) (hinformed : server.Informed)
    (hlive : server.isLive id = true) {now : Instant} {inbound : Inbound}
    (hdistinct : (server.react id now inbound).server.DistinctNodes) :
    (server.react id now inbound).server.Informed ↔ ¬server.RequestOverlooks id inbound := by
  cases inbound with
  | join request =>
    exact (h.informed_handleJoin_iff hlive hdistinct).trans (h.informed_leaveRoom_iff hinformed)
  | publish request => exact h.informed_handlePublish_iff hinformed request
  | metrics load => exact iff_of_true (h.informed_handleMetrics hinformed load now) not_false
  | leave => exact h.informed_leaveRoom_iff hinformed
  | _ =>
    refine (h.informed_quiet_iff (quiet_react rfl)).trans ?_
    exact iff_of_true hinformed not_false

/-- If all sessions are informed before an event, they are informed after it exactly when it does
not let a pass overlook a node. -/
theorem Consistent.informed_step_iff (h : server.Consistent) (hinformed : server.Informed)
    (event : SessionEvent) (hdistinct : (server.step event).DistinctNodes) :
    (server.step event).Informed ↔ ¬server.Overlooks event := by
  cases server.handled_step event with
  | refused hquiet =>
    exact iff_of_true ((h.informed_quiet_iff hquiet).2 hinformed) not_false
  | opened hnew hquiet =>
    rw [(h.opened hnew _).informed_quiet_iff hquiet, h.informed_opened_iff hnew]
    exact iff_of_true hinformed not_false
  | ignored hmalformed hquiet =>
    refine iff_of_true ((h.informed_quiet_iff hquiet).2 hinformed) ?_
    rintro ⟨inbound, hok, hoverlooks⟩
    obtain ⟨e, herror⟩ := hmalformed (isLive_of_requestOverlooks hoverlooks)
    rw [herror] at hok
    cases hok
  | answered hlive hinbound hquiet =>
    have hreact := hquiet.distinctNodes hdistinct
    rw [(h.react hlive hreact).informed_quiet_iff hquiet,
      h.informed_react_iff hinformed hlive hreact, Overlooks]
    simp [hinbound]
  | absent hgone hquiet =>
    refine iff_of_true ((h.informed_quiet_iff hquiet).2 hinformed) ?_
    exact fun hoverlooks => hgone (isLive_of_departureOverlooks hoverlooks)
  | finished hquiet =>
    rename_i id
    have hleft := h.leaveRoom id
    rw [(hleft.erased membership?_leaveRoom_self).informed_quiet_iff hquiet,
      hleft.informed_erased_iff membership?_leaveRoom_self]
    exact h.informed_leaveRoom_iff hinformed

/-- As long as the sessions join under pairwise distinct node identifiers, every session that owns a
node was always last told what the node is to do now exactly when no event lets a pass overlook a
node. -/
theorem informed_along_run_iff (engine : MediaEngine) (options : LinkOptions)
    (policy : Policy Float) (events : List SessionEvent)
    (hdistinct : ∀ done, done <+: events →
      ((new engine options policy).run done).DistinctNodes) :
    (∀ done, done <+: events → ((new engine options policy).run done).Informed) ↔
      ∀ done event, done ++ [event] <+: events →
        ¬((new engine options policy).run done).Overlooks event := by
  refine Run.always_iff Overlooks (consistent_new engine options policy)
    (informed_new engine options policy) fun done event hdone h => ?_
  have hafter := hdistinct (done ++ [event]) hdone
  rw [run, List.foldl_append] at hafter
  exact ⟨h.step event hafter, fun hinformed => h.informed_step_iff hinformed event hafter⟩

/-- The wish to enter the room `r` under the identifier of the session. -/
def entry (forwards : Bool) : JoinRequest :=
  { room := "r", capabilities := ⟨forwards, 0, 3⟩ }

/-- A session asks for something. -/
def asking (id type : String) (data : Json.Value) : SessionEvent :=
  .message id 0 { type, data := some data }

/-- Two peers publish the stream `s` one after the other while a third one relays it. -/
def republication : List SessionEvent :=
  [.start "a" true, .start "b" true, .start "c" true,
    asking "a" "join" (entry true).toJson, asking "b" "join" (entry false).toJson,
    asking "c" "join" (entry false).toJson,
    asking "b" "publish" (PublishRequest.toJson ⟨"s", .audio⟩),
    asking "c" "publish" (PublishRequest.toJson ⟨"s", .video⟩)]

/-- A server on which nothing has happened yet. -/
def fresh : Server := new (MediaEngine.onHost Host.isolated) {} Policy.standard

/-- The server before the stream is published for the second time. -/
def relaying : Server := fresh.run republication.dropLast

theorem inbound_entry (forwards : Bool) :
    Message.inbound { type := "join", data := some (entry forwards).toJson } =
      .ok (.join (entry forwards)) := by
  cases forwards <;> rfl

theorem inbound_publish (media : MediaKind) :
    Message.inbound { type := "publish", data := some (PublishRequest.toJson ⟨"s", media⟩) } =
      .ok (.publish ⟨"s", media⟩) := by
  cases media <;> rfl

theorem joinsUnder_republication :
    ∀ event ∈ republication, event.JoinsUnder (fun session => session) := by
  have hjoin : ∀ session forwards, (asking session "join" (entry forwards).toJson).JoinsUnder
      (fun session => session) := by
    intro session forwards request hrequest
    rw [← Inbound.join.inj (Except.ok.inj ((inbound_entry forwards).symm.trans hrequest))]
    rfl
  have hpublish : ∀ session media, (asking session "publish"
      (PublishRequest.toJson ⟨"s", media⟩)).JoinsUnder (fun session => session) := by
    intro session media request hrequest
    exact nomatch (inbound_publish media).symm.trans hrequest
  simp only [republication, List.forall_mem_cons]
  exact ⟨trivial, trivial, trivial, hjoin _ _, hjoin _ _, hjoin _ _, hpublish _ _, hpublish _ _,
    by simp⟩

theorem overlooks_republication :
    relaying.Overlooks (asking "c" "publish" (PublishRequest.toJson ⟨"s", .video⟩)) := by
  have hexists : (relaying.hub.rooms.get? "r").isSome = true := by decide +kernel
  have hroom : relaying.hub.rooms.get? "r" = some ((relaying.hub.rooms.get? "r").getD ∅) := by
    obtain ⟨room, hget⟩ := Option.isSome_iff_exists.1 hexists
    rw [hget]
    rfl
  have hany : (((relaying.hub.rooms.get? "r").getD ∅).nodes.get? "a").any
      (fun node => node.relays "s") = true := by decide +kernel
  obtain ⟨node, hnode, hrelays⟩ := (Option.any_eq_true ..).1 hany
  exact ⟨.publish ⟨"s", .video⟩, inbound_publish .video, ⟨"r", "c"⟩, _, by decide +kernel, hroom,
    by decide +kernel, "a", ⟨node, "s", hnode, hrelays, by decide⟩, by decide +kernel,
    by decide +kernel⟩

/-- The peer that relays a stream is not told that the stream was published anew. -/
theorem not_informed_along_republication :
    (∀ done, done <+: republication → (fresh.run done).DistinctNodes) ∧
      ¬∀ done, done <+: republication → (fresh.run done).Informed := by
  have hdistinct : ∀ done, done <+: republication → (fresh.run done).DistinctNodes :=
    fun done hdone => distinctNodes_run Function.injective_id
      (fun event hevent => joinsUnder_republication event (hdone.subset hevent)) _ _ _
  refine ⟨hdistinct, fun hinformed => ?_⟩
  exact (informed_along_run_iff _ _ _ republication hdistinct).1 hinformed
    republication.dropLast _ (List.prefix_refl _) overlooks_republication

end Server

end RelayMesh
