import RelayMesh.Proofs.Hub.Tenants
import RelayMesh.Proofs.Server.Roll

/-!
# Every node is accounted for

Sessions start, send messages and finish, the watch over the nodes evicts the
silent ones in between, and peers go away without a word.  Several sessions
may ask for the same node, and a session that has lost its node does not know
it.  `Server.Accounted` is what holds of the nodes, the rooms and the sender
registry all the same.

* `tenant?_leaveRoom` and `senders_leaveRoom` say exactly what the departure
  of a session takes away: its own node, and its own entry in the registry.
* `Accounted.of_sheds` is for everything that lets no node in, and
  `Accounted.joined` for the arrival of a node.
* `attendAll_accounted` is the result for whole runs: every node belongs to a
  session that has started and not finished and that knows it, departures
  spare the nodes of others, and nothing is left when all sessions have
  finished.
-/

namespace RelayMesh

namespace Server

variable {server before after : Server} {id other roomId nodeId : String} {m : Membership}
  {node : Node Float} {now : Instant}

/-! ## What departs with a session -/

theorem hub_send (message : Message) : (server.send id message).server.hub = server.hub := by
  unfold send
  split <;> rfl

theorem sheds_rebalance (server : Server) (roomId : String) :
    Hub.Sheds server.hub (server.rebalance roomId).hub := by
  unfold Server.rebalance
  split
  · rename_i changes hub hrebalance
    rw [hub_pushRoles]
    exact Hub.upkeep_sheds.rebalance hrebalance
  · exact Hub.Sheds.refl _

theorem look_rebalance {β : Type} {f : Node Float → β} {otherRoom : String}
    (hf : ∀ node role streams, f (Node.assign node role streams) = f node) :
    (server.rebalance roomId).hub.look (fun _ => f) otherRoom nodeId =
      server.hub.look (fun _ => f) otherRoom nodeId := by
  unfold Server.rebalance
  split
  · rename_i changes hub hrebalance
    rw [hub_pushRoles]
    exact Hub.look_rebalance hf hrebalance
  · rfl

theorem tenant?_rebalance {otherRoom : String} :
    (server.rebalance roomId).hub.tenant? otherRoom nodeId = server.hub.tenant? otherRoom nodeId :=
  look_rebalance fun _ _ _ => rfl

/-- A session that has lost its node takes nothing along. -/
theorem leaveRoom_of_ne (hm : server.membership? id = some m)
    (hlost : server.hub.owner? m.room m.node ≠ some (some id)) :
    server.leaveRoom id = (server.setMembership id none).removeSender m.node id := by
  have hhub : ((server.setMembership id none).removeSender m.node id).hub = server.hub :=
    hub_removeSender m.node
  rw [leaveRoom, hm]
  dsimp only
  rw [hhub, Hub.leaveSession_of_ne hlost]

/-- A session that leaves takes the node along that it speaks for, if it still owns it, and leaves
every other node as it is. -/
theorem tenant?_leaveRoom :
    (server.leaveRoom id).hub.tenant? roomId nodeId =
      if server.membership? id = some ⟨roomId, nodeId⟩ ∧
        server.hub.owner? roomId nodeId = some (some id)
      then none else server.hub.tenant? roomId nodeId := by
  cases hm : server.membership? id with
  | none =>
    rw [leaveRoom_of_membership?_eq_none hm]
    simp
  | some m =>
    by_cases howner : server.hub.owner? m.room m.node = some (some id)
    · obtain ⟨room, node, hroom, hnode, hsession⟩ := Hub.exists_of_owner? howner
      have hdeparted : (server.leaveRoom id).hub.tenant? roomId nodeId =
          if roomId = m.room ∧ nodeId = m.node then none
          else server.hub.tenant? roomId nodeId := by
        rw [leaveRoom_of_membership? hm hroom hnode hsession, tenant?_rebalance]
        exact Hub.tenant?_departed hroom
      rw [hdeparted]
      by_cases hhere : m = ⟨roomId, nodeId⟩
      · rw [hhere] at howner
        simp [hhere, howner]
      · have hother : ¬(roomId = m.room ∧ nodeId = m.node) := by
          intro heq
          rw [heq.1, heq.2] at hhere
          exact hhere rfl
        simp [hhere, hother]
    · have hkept : ¬(some m = some ⟨roomId, nodeId⟩ ∧
          server.hub.owner? roomId nodeId = some (some id)) := by
        intro h
        obtain ⟨hhere, hown⟩ := h
        rw [Option.some.inj hhere] at howner
        exact howner hown
      rw [leaveRoom_of_ne hm howner, hub_removeSender, if_neg hkept]
      rfl

/-- With a session goes the entry of its node in the registry, unless it is another session's. -/
theorem senders_leaveRoom :
    (server.leaveRoom id).senders.get? nodeId =
      if (server.membership? id).map Membership.node = some nodeId ∧
        server.senders.get? nodeId = some id
      then none else server.senders.get? nodeId := by
  cases hm : server.membership? id with
  | none =>
    rw [leaveRoom_of_membership?_eq_none hm]
    simp
  | some m =>
    have hsame : (server.setMembership id none).senders = server.senders := rfl
    rw [(sameSeats_leaveRoom hm).senders, removeSender, hsame]
    by_cases hnode : m.node = nodeId
    · subst hnode
      split
      · rename_i hsender
        rw [Table.get?_erase]
        simp [hsender]
      · rename_i hsender
        rw [hsame]
        simp [hsender]
    · split
      · rw [Table.get?_erase, if_neg (Ne.symm hnode)]
        simp [hnode]
      · rw [hsame]
        simp [hnode]

/-! ## The invariant -/

/-- Every node belongs to a session that knows it and whose link it carries, no room is empty, and
every entry of the sender registry belongs to a session that speaks for a node of that
identifier. -/
structure Accounted (server : Server) : Prop where
  owned : ∀ {roomId nodeId tenant}, server.hub.tenant? roomId nodeId = some tenant →
    ∃ id, tenant = (some id, some id) ∧ server.membership? id = some ⟨roomId, nodeId⟩
  occupied : server.hub.Everywhere Room.Occupied
  registered : ∀ {nodeId id}, server.senders.get? nodeId = some id →
    ∃ m, server.membership? id = some m ∧ m.node = nodeId

theorem accounted_new (engine : MediaEngine) (options : LinkOptions) (policy : Policy Float) :
    (new engine options policy).Accounted where
  owned h := nomatch h
  occupied := Hub.everywhere_new _ policy
  registered h := nomatch h

/-- Nothing of the sessions is left behind. -/
theorem Accounted.no_leak (h : server.Accounted) (hdone : ∀ id, server.isLive id = false) :
    server.hub.rooms = ∅ ∧ server.senders = ∅ := by
  have hnone : ∀ id m, server.membership? id ≠ some m := by
    intro id m hm
    have hlive := isLive_of_membership? hm
    rw [hdone id] at hlive
    exact Bool.false_ne_true hlive
  constructor
  · apply Table.ext_get?
    intro roomId
    cases hroom : server.hub.rooms.get? roomId with
    | none => rfl
    | some room =>
      obtain ⟨nodeId, node, hnode⟩ := h.occupied roomId room hroom
      have htenant : server.hub.tenant? roomId nodeId = some (node.session, node.link) :=
        (Hub.look_of_get? hroom).trans (Room.look_of_get? _ hnode)
      obtain ⟨id, -, hm⟩ := h.owned htenant
      exact absurd hm (hnone id _)
  · apply Table.ext_get?
    intro nodeId
    cases hsender : server.senders.get? nodeId with
    | none => rfl
    | some id =>
      obtain ⟨m, hm, -⟩ := h.registered hsender
      exact absurd hm (hnone id m)

/-! ## Steps that let no node in -/

theorem Accounted.of_sheds (h : before.Accounted) (hhub : Hub.Sheds before.hub after.hub)
    (hsenders : after.senders = before.senders)
    (hmembership : ∀ id, after.membership? id = before.membership? id) : after.Accounted where
  owned htenant := by
    obtain ⟨id, heq, hm⟩ := h.owned (hhub.tenant htenant)
    exact ⟨id, heq, (hmembership id).trans hm⟩
  occupied := hhub.occupied h.occupied
  registered hsender := by
    rw [hsenders] at hsender
    obtain ⟨m, hm, hnode⟩ := h.registered hsender
    exact ⟨m, (hmembership _).trans hm, hnode⟩

theorem Accounted.of_sameSeats (h : before.Accounted) (hsame : SameSeats before after)
    (hhub : Hub.Sheds before.hub after.hub) : after.Accounted :=
  h.of_sheds hhub hsame.senders hsame.membership?

theorem Accounted.quiet (h : before.Accounted) (hquiet : Quiet before after) : after.Accounted := by
  apply h.of_sameSeats hquiet.sameSeats
  rw [hquiet.hub]
  exact Hub.Sheds.refl _

theorem sheds_decideFor : Hub.Sheds server.hub (server.decideFor id m).server.hub := by
  unfold decideFor
  split
  · exact Hub.Sheds.refl _
  · rename_i kept hub hevaluate
    rw [hub_send]
    exact Hub.upkeep_sheds.evaluate hevaluate

theorem sheds_handlePublish (request : PublishRequest) :
    Hub.Sheds server.hub (server.handlePublish id request).server.hub := by
  unfold handlePublish
  split
  · exact Hub.Sheds.refl _
  · rename_i roomId nodeId hm
    have hpublished :=
      Hub.sheds_publish server.hub roomId nodeId request.stream request.media
    split
    · exact Hub.Sheds.refl _
    · rename_i stream hub hpublish
      rw [hpublish, Hub.settle] at hpublished
      exact hpublished.trans (sheds_rebalance { server with hub } roomId)

theorem sheds_handleMetrics (load : Load Float) :
    Hub.Sheds server.hub (server.handleMetrics id load now).server.hub := by
  unfold handleMetrics
  split
  · exact Hub.Sheds.refl _
  · split
    · exact Hub.Sheds.refl _
    · rename_i kept hub hreport
      have hreported := Hub.upkeep_sheds.report hreport
      unfold Outcome.andThen
      split
      · apply hreported.trans
        apply Hub.Sheds.trans _ (sheds_rebalance _ _)
        rw [hub_send]
        exact Hub.Sheds.refl hub
      · rw [hub_send]
        exact hreported

theorem Accounted.watch (h : server.Accounted) (hwatch : server.watch now = .ok after) :
    after.Accounted := by
  unfold Server.watch at hwatch
  cases heviction : server.hub.watch now with
  | error e =>
    rw [heviction] at hwatch
    exact nomatch hwatch
  | ok eviction =>
    rw [heviction] at hwatch
    rw [← Except.ok.inj hwatch]
    have hevicted : { server with hub := eviction.hub }.Accounted :=
      h.of_sameSeats (sameSeats_withHub _) (Hub.upkeep_sheds.watch heviction)
    exact hevicted.quiet (quiet_closeLinks _)

theorem membership?_stopListening :
    (server.stopListening id).membership? other = server.membership? other := by
  have hstanding : (server.stopListening id).standing? other =
      if other = id then (server.standing? other).map (fun s => { s with listening := false })
      else server.standing? other :=
    standing?_modifySession fun _ => rfl
  rw [membership?_eq, hstanding, membership?_eq]
  split
  · cases server.standing? other <;> rfl
  · rfl

/-! ## Departures -/

theorem occupied_leaveRoom (h : server.hub.Everywhere Room.Occupied) (id : String) :
    (server.leaveRoom id).hub.Everywhere Room.Occupied := by
  cases hm : server.membership? id with
  | none =>
    rw [leaveRoom_of_membership?_eq_none hm]
    exact h
  | some m =>
    by_cases howner : server.hub.owner? m.room m.node = some (some id)
    · obtain ⟨room, node, hroom, hnode, hsession⟩ := Hub.exists_of_owner? howner
      rw [leaveRoom_of_membership? hm hroom hnode hsession]
      apply (sheds_rebalance _ _).occupied
      exact (Hub.sheds_departed hroom m.node).occupied h
    · rw [leaveRoom_of_ne hm howner, hub_removeSender]
      exact h

theorem Accounted.leaveRoom (h : server.Accounted) (id : String) :
    (server.leaveRoom id).Accounted where
  owned {roomId nodeId tenant} htenant := by
    rw [tenant?_leaveRoom] at htenant
    split at htenant
    · exact nomatch htenant
    · rename_i hkept
      obtain ⟨other, heq, hm⟩ := h.owned htenant
      have hne : other ≠ id := by
        intro hid
        subst hid
        rw [Hub.owner?_eq, htenant, heq] at hkept
        exact hkept ⟨hm, rfl⟩
      exact ⟨other, heq, by rw [membership?_leaveRoom, if_neg hne, hm]⟩
  occupied := occupied_leaveRoom h.occupied id
  registered {nodeId other} hsender := by
    rw [senders_leaveRoom] at hsender
    split at hsender
    · exact nomatch hsender
    · rename_i hkept
      obtain ⟨m, hm, hnode⟩ := h.registered hsender
      have hne : other ≠ id := by
        intro hid
        subst hid
        apply hkept
        rw [hm]
        exact ⟨congrArg some hnode, hsender⟩
      exact ⟨m, by rw [membership?_leaveRoom, if_neg hne, hm], hnode⟩

theorem Accounted.erased (h : server.Accounted) (hnone : server.membership? id = none) :
    (server.erased id).Accounted :=
  h.of_sheds (Hub.Sheds.refl _) rfl fun _ => membership?_erased hnone

/-- A session that leaves or finishes spares the nodes that other sessions own. -/
theorem owner?_leaveRoom_of_ne (hne : other ≠ id)
    (howner : server.hub.owner? roomId nodeId = some (some other)) :
    (server.leaveRoom id).hub.owner? roomId nodeId = some (some other) := by
  have hkept : ¬(server.membership? id = some ⟨roomId, nodeId⟩ ∧
      server.hub.owner? roomId nodeId = some (some id)) := by
    intro h
    rw [howner] at h
    exact hne (Option.some.inj (Option.some.inj h.2))
  rw [Hub.owner?_eq, tenant?_leaveRoom, if_neg hkept, ← Hub.owner?_eq, howner]

/-! ## Arrivals -/

/-- A node may come in for a session that has none, also in place of another session's node. -/
theorem Accounted.joined (h : server.Accounted) (hlive : server.isLive id = true)
    (hnone : server.membership? id = none) (hsession : node.session = some id)
    (hlink : node.link = some id) : (server.joined id m node).Accounted := by
  rw [isLive_eq] at hlive
  -- the other sessions keep their memberships
  have hkept : ∀ other m', server.membership? other = some m' →
      (server.joined id m node).membership? other = some m' := by
    intro other m' hm
    have hne : other ≠ id := by
      intro hid
      rw [hid, hnone] at hm
      exact nomatch hm
    rw [membership?_joined hlive, if_neg hne, hm]
  have hself : (server.joined id m node).membership? id = some m := by
    rw [membership?_joined hlive, if_pos rfl]
  constructor
  · intro roomId nodeId tenant htenant
    rw [hub_joined, Hub.tenant?_join] at htenant
    split at htenant
    · rename_i heq
      obtain ⟨hroom, hnode⟩ := heq
      refine ⟨id, ?_, ?_⟩
      · rw [← Option.some.inj htenant, hsession, hlink]
      · rw [hself, hroom, hnode]
    · obtain ⟨other, heq, hm⟩ := h.owned htenant
      exact ⟨other, heq, hkept other _ hm⟩
  · rw [hub_joined]
    exact h.occupied.join_occupied node
  · intro nodeId other hsender
    rw [senders_joined, Table.get?_insert] at hsender
    split at hsender
    · rename_i heq
      rw [← Option.some.inj hsender]
      exact ⟨m, hself, heq.symm⟩
    · obtain ⟨m', hm, hnode⟩ := h.registered hsender
      exact ⟨m', hkept other m' hm, hnode⟩

theorem Accounted.handleJoin (h : server.Accounted) (hlive : server.isLive id = true)
    (request : JoinRequest) (now : Instant) :
    (server.handleJoin id request now).server.Accounted := by
  have hstill : (server.leaveRoom id).isLive id = true := by
    rw [isLive_eq, isSome_standing?_leaveRoom, ← isLive_eq, hlive]
  have hjoined : ((server.leaveRoom id).joined id (request.membership id)
      (request.arrival id now)).Accounted :=
    (h.leaveRoom id).joined hstill membership?_leaveRoom_self rfl rfl
  rw [handleJoin_eq]
  exact hjoined.of_sameSeats sameSeats_decideFor sheds_decideFor

/-! ## Runs -/

theorem Accounted.react (h : server.Accounted) (hlive : server.isLive id = true)
    (inbound : Inbound) : (server.react id now inbound).server.Accounted := by
  cases inbound with
  | join request => exact h.handleJoin hlive request now
  | publish request =>
    exact h.of_sameSeats (sameSeats_handlePublish request) (sheds_handlePublish request)
  | metrics load =>
    exact h.of_sameSeats (sameSeats_handleMetrics load now) (sheds_handleMetrics load)
  | leave => exact h.leaveRoom id
  | _ => exact h.quiet (quiet_react rfl)

theorem Accounted.step (h : server.Accounted) (event : SessionEvent) :
    (server.step event).Accounted := by
  cases server.handled_step event with
  | refused hquiet => exact h.quiet hquiet
  | opened hnew hquiet =>
    rename_i id listening link
    have hopened : (server.opened id link).Accounted :=
      h.of_sheds (Hub.Sheds.refl _) rfl fun _ => membership?_opened hnew link
    exact hopened.quiet hquiet
  | ignored _ hquiet => exact h.quiet hquiet
  | answered hlive _ hquiet => exact (h.react hlive _).quiet hquiet
  | absent _ hquiet => exact h.quiet hquiet
  | finished hquiet => exact ((h.leaveRoom _).erased membership?_leaveRoom_self).quiet hquiet

theorem Accounted.attend (h : server.Accounted) (event : ServerEvent) :
    (server.attend event).Accounted := by
  cases event with
  | session event => exact h.step event
  | watch now =>
    rw [Server.attend]
    split
    · rename_i after hwatch
      exact h.watch hwatch
    · exact h
  | hangUp id => exact h.of_sheds (Hub.Sheds.refl _) rfl fun _ => membership?_stopListening

theorem Accounted.attendAll (h : server.Accounted) (events : List ServerEvent) :
    (server.attendAll events).Accounted :=
  List.foldlRecOn events Server.attend h fun _ h event _ => h.attend event

/-- Whatever the sessions ask for, in every state of a server every node belongs to a live session
that knows it and whose link it carries, no room is empty, and every entry of the sender registry is
a live session's.  The live sessions, and with them all that speak for a node, are those that have
started on the way and not finished since.  So a session that leaves or finishes spares the nodes
that others own, and when every session that has started has finished neither a room nor an entry is
left. -/
theorem attendAll_accounted (engine : MediaEngine) (options : LinkOptions) (policy : Policy Float)
    (events : List ServerEvent) :
    ((new engine options policy).attendAll events).Accounted ∧
      (∀ id, ((new engine options policy).attendAll events).isLive id = true ↔
        (new engine options policy).InSession events id) ∧
      (∀ id m, ((new engine options policy).attendAll events).membership? id = some m →
        (new engine options policy).InSession events id) ∧
      (∀ id other roomId nodeId, other ≠ id →
        ((new engine options policy).attendAll events).hub.owner? roomId nodeId =
          some (some other) →
        (((new engine options policy).attendAll events).leaveRoom id).hub.owner? roomId nodeId =
            some (some other) ∧
          (((new engine options policy).attendAll events).finish id).hub.owner? roomId nodeId =
            some (some other)) ∧
      ((∀ id, ¬(new engine options policy).InSession events id) →
        ((new engine options policy).attendAll events).hub.rooms = ∅ ∧
          ((new engine options policy).attendAll events).senders = ∅) := by
  have haccounted : ((new engine options policy).attendAll events).Accounted :=
    (accounted_new engine options policy).attendAll events
  have hlive : ∀ id, ((new engine options policy).attendAll events).isLive id = true ↔
      (new engine options policy).InSession events id :=
    isLive_attendAll_iff (fun _ => rfl) events
  refine ⟨haccounted, hlive, ?_, ?_, ?_⟩
  · intro id m hm
    exact (hlive id).1 (isLive_of_membership? hm)
  · intro id other roomId nodeId hne howner
    have hleft := owner?_leaveRoom_of_ne hne howner
    refine ⟨hleft, ?_⟩
    rw [quiet_finish.hub]
    exact hleft
  · intro hdone
    apply haccounted.no_leak
    intro id
    exact Bool.eq_false_iff.2 fun h => hdone id ((hlive id).1 h)

end Server

end RelayMesh
