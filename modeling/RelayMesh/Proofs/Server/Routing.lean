import RelayMesh.Proofs.Run
import RelayMesh.Proofs.Server.Accounted

/-!
# Which session hears of a node

A pass over a room tells the changed assignments to the sessions that the
registry names.  The registry is keyed by the identifier of a node alone, and
nodes of the same identifier may be in several rooms, each with an owner of
its own.

* `sessions_pushRoles` says what each session hears, in terms of the registry.
* `Server.PushesToOwners` is what the registry is meant for: whatever is told
  about a node is told to the session that owns it and to no other.  It holds
  exactly when the registry names the owner of every node (`Server.Routed`).
* `Accounted.routed_step_iff` finds the one event that breaks this: a session
  joins under the identifier of a node that another session owns in another
  room.
* `passOf?` is the pass that an event leads to, and `hearOnly_step` says that
  other sessions than the one of the event hear of nothing else.
* `pushesToOwners_along_run_iff` is the result for whole runs.
-/

namespace RelayMesh

/-- The session after it has heard of some changes. -/
def Session.hearAll (session : Session) (id : String) (changes : List (String × Assignment)) :
    Session :=
  changes.foldl (fun session change => session.hear (Message.role id change.2)) session

namespace Server

variable {server before after mid : Server} {id other roomId nodeId : String} {m : Membership}
  {node : Node Float} {now : Instant}

/-! ## What is pushed -/

theorem sessions_pushRoles (changes : List (String × Assignment)) :
    (server.pushRoles changes).sessions.get? id =
      (server.sessions.get? id).map (fun s =>
        s.hearAll id (changes.filter (fun change => server.senders.get? change.1 = some id))) := by
  induction changes generalizing server with
  | nil =>
    cases hsession : server.sessions.get? id with
    | none => exact hsession
    | some session => exact hsession
  | cons change rest ih =>
    have hsenders : (server.pushRole change.1 change.2).senders = server.senders :=
      senders_pushRole change.1 change.2
    rw [pushRoles_cons, ih, hsenders, sessions_pushRole, List.filter_cons]
    by_cases hown : server.senders.get? change.1 = some id
    · simp only [hown, if_true, decide_true, Option.map_map]
      rfl
    · simp only [hown, if_false, decide_false, Bool.false_eq_true]

/-! ## Owners and the registry -/

/-- Whatever assignment of a node the server pushes, the session that owns the node hears of it, and
no other session hears anything. -/
def PushesToOwners (server : Server) : Prop :=
  ∀ roomId nodeId owner assignment id, server.hub.owner? roomId nodeId = some owner →
    (server.pushRole nodeId assignment).sessions.get? id =
      if owner = some id then
        (server.sessions.get? id).map (fun s => s.hear (Message.role id assignment))
      else server.sessions.get? id

/-- The registry names the owner of every node. -/
def Routed (server : Server) : Prop :=
  ∀ roomId nodeId owner, server.hub.owner? roomId nodeId = some owner →
    server.senders.get? nodeId = owner

/-- Every peer takes messages. -/
def AllListen (server : Server) : Prop :=
  ∀ id standing, server.standing? id = some standing → standing.listening = true

/-- The owner of a node is a session that speaks for the node. -/
theorem Accounted.exists_owner (h : server.Accounted) {owner : Option String}
    (howner : server.hub.owner? roomId nodeId = some owner) :
    ∃ id, owner = some id ∧ server.membership? id = some ⟨roomId, nodeId⟩ := by
  rw [Hub.owner?_eq] at howner
  obtain ⟨tenant, htenant, heq⟩ := Option.map_eq_some_iff.1 howner
  obtain ⟨id, hid, hm⟩ := h.owned htenant
  rw [hid] at heq
  exact ⟨id, heq.symm, hm⟩

/-- As long as all peers take messages, the owner of a node notices when the registry names another
session. -/
theorem pushesToOwners_iff (h : server.Accounted) (hlisten : server.AllListen) :
    server.PushesToOwners ↔ server.Routed := by
  constructor
  · intro hpush roomId nodeId owner howner
    obtain ⟨id, heq, hm⟩ := h.exists_owner howner
    subst heq
    by_contra hwrong
    have hmissed := hpush roomId nodeId (some id) .receiver id howner
    rw [sessions_pushRole, if_neg hwrong, if_pos rfl] at hmissed
    obtain ⟨session, hsession⟩ := Table.contains_iff.1 (isLive_of_membership? hm)
    have hlistening : session.listening = true :=
      hlisten id _ (congrArg (Option.map Session.standing) hsession)
    rw [hsession] at hmissed
    exact Session.hear_ne hlistening _ (Option.some.inj hmissed).symm
  · intro hrouted roomId nodeId owner assignment id howner
    rw [sessions_pushRole, hrouted roomId nodeId owner howner]

/-- The changes that a pass over a room makes. -/
def changes (server : Server) (roomId : String) : List (String × Assignment) :=
  match server.hub.rebalance roomId with
  | .ok (changes, _) => changes
  | .error _ => []

/-- A pass over a room tells each session the changes of the nodes that it owns there, and nothing
else. -/
def TellsOwners (server : Server) (roomId : String) : Prop :=
  ∀ id, (server.rebalance roomId).sessions.get? id =
    (server.sessions.get? id).map (fun s => s.hearAll id ((server.changes roomId).filter
      (fun change => server.hub.owner? roomId change.1 = some (some id))))

theorem Routed.tellsOwners (h : server.Routed) (roomId : String) : server.TellsOwners roomId := by
  intro id
  cases hroom : server.hub.rooms.get? roomId with
  | none =>
    rw [rebalance_of_get?_eq_none hroom, changes, Hub.rebalance_of_get?_eq_none hroom]
    cases hsession : server.sessions.get? id with
    | none => rfl
    | some session => rfl
  | some room =>
    have hchanges : server.changes roomId = (room.rebalance server.hub.policy).1 := by
      rw [changes, Hub.rebalance_of_get? hroom]
    -- the pass changes nodes of the room only, and for these the registry is right
    have hsender : ∀ change ∈ (room.rebalance server.hub.policy).1,
        server.senders.get? change.1 = some id ↔
          server.hub.owner? roomId change.1 = some (some id) := by
      intro change hchange
      obtain ⟨node, hnode⟩ := Table.mem_keys.1 (Room.mem_of_mem_evaluateAll hchange)
      have howner := Hub.owner?_of_get? hroom hnode
      rw [h roomId change.1 _ howner, howner, Option.some_inj]
    have hfilter : (room.rebalance server.hub.policy).1.filter
          (fun change => decide (server.senders.get? change.1 = some id)) =
        (room.rebalance server.hub.policy).1.filter
          (fun change => decide (server.hub.owner? roomId change.1 = some (some id))) := by
      apply List.filter_congr
      intro change hchange
      simp only [hsender change hchange]
    rw [rebalance_of_get? hroom, sessions_pushRoles, hchanges, ← hfilter]
    rfl

/-! ## Peers that take messages -/

theorem AllListen.of_sameSeats (h : before.AllListen) (hsame : SameSeats before after) :
    after.AllListen :=
  fun id _ hafter => hsame.listening (h id _) hafter

theorem AllListen.setMembership (h : server.AllListen) (membership : Option Membership) :
    (server.setMembership id membership).AllListen := by
  intro other standing hother
  rw [standing?_setMembership] at hother
  split at hother
  · obtain ⟨old, hold, heq⟩ := Option.map_eq_some_iff.1 hother
    rw [← heq]
    exact h other old hold
  · exact h other standing hother

theorem AllListen.leaveRoom (h : server.AllListen) (id : String) :
    (server.leaveRoom id).AllListen := by
  intro other standing hother
  have hcleared : (server.setMembership id none).AllListen := h.setMembership none
  exact listening_of_seat? seat?_leaveRoom (hcleared other _) hother

theorem AllListen.joined (h : server.AllListen) : (server.joined id m node).AllListen := by
  have hadmitted : ((server.admitted m node).addSender m.node id).AllListen := by
    intro other standing hother
    exact h other standing (standing?_admitted.symm.trans hother)
  exact hadmitted.setMembership (some m)

theorem AllListen.react (h : server.AllListen) (inbound : Inbound) :
    (server.react id now inbound).server.AllListen := by
  cases inbound with
  | join request =>
    have hjoined : ((server.leaveRoom id).joined id (request.membership id)
        (request.arrival id now)).AllListen := (h.leaveRoom id).joined
    rw [Server.react, handleJoin_eq]
    exact hjoined.of_sameSeats sameSeats_decideFor
  | publish request => exact h.of_sameSeats (sameSeats_handlePublish request)
  | metrics load => exact h.of_sameSeats (sameSeats_handleMetrics load now)
  | leave => exact h.leaveRoom id
  | _ => exact h.of_sameSeats (quiet_react rfl).sameSeats

theorem AllListen.step (h : server.AllListen) (event : SessionEvent) :
    (server.step event).AllListen := by
  cases server.handled_step event with
  | refused hquiet => exact h.of_sameSeats hquiet.sameSeats
  | opened hnew hquiet =>
    rename_i id listening link
    have hopened : (server.opened id link).AllListen := by
      intro other standing hother
      rw [standing?_opened] at hother
      split at hother
      · rw [← Option.some.inj hother]
      · exact h other standing hother
    exact hopened.of_sameSeats hquiet.sameSeats
  | ignored _ hquiet => exact h.of_sameSeats hquiet.sameSeats
  | answered _ _ hquiet => exact (h.react _).of_sameSeats hquiet.sameSeats
  | absent _ hquiet => exact h.of_sameSeats hquiet.sameSeats
  | finished hquiet =>
    rename_i id
    have herased : ((server.leaveRoom id).erased id).AllListen := by
      intro other standing hother
      rw [standing?_erased] at hother
      split at hother
      · exact nomatch hother
      · exact h.leaveRoom id other standing hother
    exact herased.of_sameSeats hquiet.sameSeats

/-! ## Events and the registry -/

theorem Routed.of_sheds (h : before.Routed) (hhub : Hub.Sheds before.hub after.hub)
    (hsenders : after.senders = before.senders) : after.Routed := by
  intro roomId nodeId owner howner
  rw [hsenders]
  exact h roomId nodeId owner (hhub.owner? howner)

theorem Quiet.routed_iff (hquiet : Quiet before after) : after.Routed ↔ before.Routed := by
  unfold Routed
  rw [hquiet.hub, hquiet.senders]

/-- The owners after a session has left are other sessions. -/
theorem Accounted.owner?_leaveRoom_iff (h : server.Accounted) {owner : Option String} :
    (server.leaveRoom id).hub.owner? roomId nodeId = some owner ↔
      server.hub.owner? roomId nodeId = some owner ∧ owner ≠ some id := by
  constructor
  · intro howner
    obtain ⟨other, heq, hm⟩ := (h.leaveRoom id).exists_owner howner
    subst heq
    rw [membership?_leaveRoom] at hm
    split at hm
    · exact nomatch hm
    · rename_i hne
      rw [Hub.owner?_eq, tenant?_leaveRoom] at howner
      split at howner
      · exact nomatch howner
      · rw [← Hub.owner?_eq] at howner
        exact ⟨howner, fun heq => hne (Option.some.inj heq)⟩
  · intro hbefore
    obtain ⟨howner, hne⟩ := hbefore
    obtain ⟨other, heq, -⟩ := h.exists_owner howner
    subst heq
    exact owner?_leaveRoom_of_ne (fun heq => hne (congrArg some heq)) howner

theorem Accounted.routed_leaveRoom (h : server.Accounted) (hrouted : server.Routed) (id : String) :
    (server.leaveRoom id).Routed := by
  intro roomId nodeId owner howner
  obtain ⟨hbefore, hne⟩ := h.owner?_leaveRoom_iff.1 howner
  rw [senders_leaveRoom, hrouted roomId nodeId owner hbefore, if_neg]
  intro hgone
  exact hne hgone.2

/-- A node of a session that has none comes in under an identifier that no other room knows, or the
registry loses the owner of the other room's node. -/
theorem routed_joined_iff (hrouted : server.Routed)
    (hsession : node.session = some id) :
    (server.joined id m node).Routed ↔
      ∀ roomId owner, roomId ≠ m.room → server.hub.owner? roomId m.node = some owner →
        owner = some id := by
  have hregistry : ∀ nodeId, (server.joined id m node).senders.get? nodeId =
      if nodeId = m.node then some id else server.senders.get? nodeId := by
    intro nodeId
    rw [senders_joined, Table.get?_insert]
  have howners : ∀ roomId nodeId, (server.joined id m node).hub.owner? roomId nodeId =
      if roomId = m.room ∧ nodeId = m.node then some (some id)
      else server.hub.owner? roomId nodeId := by
    intro roomId nodeId
    rw [hub_joined, Hub.owner?_join, hsession]
  constructor
  · intro hafter roomId owner hroom howner
    have hother : (server.joined id m node).hub.owner? roomId m.node = some owner := by
      rw [howners, if_neg fun heq => hroom heq.1, howner]
    have hnamed := hafter roomId m.node owner hother
    rw [hregistry, if_pos rfl] at hnamed
    exact hnamed.symm
  · intro hfree roomId nodeId owner howner
    rw [howners] at howner
    rw [hregistry]
    split at howner
    · rename_i heq
      rw [if_pos heq.2, ← Option.some.inj howner]
    · rename_i hne
      by_cases hnode : nodeId = m.node
      · subst hnode
        have hroom : roomId ≠ m.room := fun heq => hne ⟨heq, rfl⟩
        rw [if_pos rfl, hfree roomId owner hroom howner]
      · rw [if_neg hnode, hrouted roomId nodeId owner howner]

/-- A session would join under the identifier of a node that another session owns in another
room. -/
def JoinCollides (server : Server) (id : String) (request : JoinRequest) : Prop :=
  ∃ roomId other, roomId ≠ request.room ∧ other ≠ id ∧
    server.hub.owner? roomId (request.membership id).node = some (some other)

theorem routed_decideFor_iff : (server.decideFor id m).server.Routed ↔ server.Routed := by
  have howner : ∀ roomId nodeId, (server.decideFor id m).server.hub.owner? roomId nodeId =
      server.hub.owner? roomId nodeId := by
    intro roomId nodeId
    unfold decideFor
    split
    · rfl
    · rename_i kept hub hevaluate
      rw [hub_send, Hub.owner?_eq, Hub.tenant?_evaluate hevaluate, ← Hub.owner?_eq]
  unfold Routed
  simp only [howner, sameSeats_decideFor.senders]

theorem Accounted.routed_handleJoin_iff (h : server.Accounted) (hrouted : server.Routed)
    (request : JoinRequest) (now : Instant) :
    (server.handleJoin id request now).server.Routed ↔ ¬server.JoinCollides id request := by
  have hleft := h.routed_leaveRoom hrouted id
  rw [handleJoin_eq, routed_decideFor_iff, routed_joined_iff hleft rfl]
  constructor
  · intro hfree hcollides
    obtain ⟨roomId, other, hroom, hne, howner⟩ := hcollides
    have hkept := owner?_leaveRoom_of_ne hne howner
    exact hne (Option.some.inj (hfree roomId _ hroom hkept))
  · intro hfree roomId owner hroom howner
    obtain ⟨hbefore, hne⟩ := h.owner?_leaveRoom_iff.1 howner
    obtain ⟨other, heq, -⟩ := h.exists_owner hbefore
    subst heq
    exact absurd ⟨roomId, other, hroom, fun heq => hne (congrArg some heq), hbefore⟩ hfree

/-- A session joins under the identifier of a node that another session owns in another room. -/
def Collides (server : Server) : SessionEvent → Prop
  | .message id _ message =>
    server.isLive id = true ∧
      ∃ request, message.inbound = .ok (.join request) ∧ server.JoinCollides id request
  | _ => False

theorem Accounted.routed_react_iff (h : server.Accounted) (hrouted : server.Routed)
    (inbound : Inbound) :
    (server.react id now inbound).server.Routed ↔
      ¬∃ request, inbound = .join request ∧ server.JoinCollides id request := by
  cases inbound with
  | join request =>
    rw [Server.react, h.routed_handleJoin_iff hrouted request now]
    simp
  | publish request =>
    exact iff_of_true
      (hrouted.of_sheds (sheds_handlePublish request) (sameSeats_handlePublish request).senders)
      (by simp)
  | metrics load =>
    exact iff_of_true
      (hrouted.of_sheds (sheds_handleMetrics load) (sameSeats_handleMetrics load now).senders)
      (by simp)
  | leave => exact iff_of_true (h.routed_leaveRoom hrouted id) (by simp)
  | _ => exact iff_of_true ((quiet_react rfl).routed_iff.2 hrouted) (by simp)

/-- The registry names the owner of every node until a session joins under the identifier of a node
that another session owns in another room. -/
theorem Accounted.routed_step_iff (h : server.Accounted) (hrouted : server.Routed)
    (event : SessionEvent) : (server.step event).Routed ↔ ¬server.Collides event := by
  cases server.handled_step event with
  | refused hquiet => exact iff_of_true (hquiet.routed_iff.2 hrouted) not_false
  | opened hnew hquiet =>
    have hopened := hrouted.of_sheds (Hub.Sheds.refl _) rfl
    exact iff_of_true (hquiet.routed_iff.2 hopened) not_false
  | ignored hmalformed hquiet =>
    apply iff_of_true (hquiet.routed_iff.2 hrouted)
    intro hcollides
    obtain ⟨hlive, request, hjoin, -⟩ := hcollides
    obtain ⟨e, herror⟩ := hmalformed hlive
    rw [herror] at hjoin
    exact nomatch hjoin
  | answered hlive hinbound hquiet =>
    rw [hquiet.routed_iff, h.routed_react_iff hrouted]
    unfold Collides
    simp [hlive, hinbound]
  | absent _ hquiet => exact iff_of_true (hquiet.routed_iff.2 hrouted) not_false
  | finished hquiet =>
    rename_i id
    have hleft : ((server.leaveRoom id).erased id).Routed := h.routed_leaveRoom hrouted id
    exact iff_of_true (hquiet.routed_iff.2 hleft) not_false

/-! ## The passes of events -/

/-- The pass that the departure of a session leads to: the server as the pass finds it, and the
room. -/
def departure? (server : Server) (id : String) : Option (Server × String) :=
  match server.membership? id with
  | none => none
  | some { room, node } =>
    let server := (server.setMembership id none).removeSender node id
    match server.hub.leaveSession room node id with
    | (true, hub) => some ({ server with hub }, room)
    | (false, _) => none

/-- The pass that a request leads to. -/
def passFor? (server : Server) (id : String) (now : Instant) : Inbound → Option (Server × String)
  | .join _ => server.departure? id
  | .leave => server.departure? id
  | .publish request =>
    match server.membership? id with
    | none => none
    | some { room, node } =>
      match server.hub.publish room node request.stream request.media with
      | .error _ => none
      | .ok (_, hub) => some ({ server with hub }, room)
  | .metrics load =>
    match server.membership? id with
    | none => none
    | some { room, node } =>
      match server.hub.report room node load now with
      | .error _ => none
      | .ok (assignment, hub) =>
        if server.isListening id then
          some ({ server with hub }.deliver id (Message.role id assignment), room)
        else none
  | _ => none

/-- The pass that an event leads to. -/
def passOf? (server : Server) : SessionEvent → Option (Server × String)
  | .start .. => none
  | .message id now message =>
    if server.isLive id then
      match message.inbound with
      | .error _ => none
      | .ok inbound => server.passFor? id now inbound
    else none
  | .finish id => if server.isLive id then server.departure? id else none

/-- The session that an event is about. -/
def SessionEvent.session : SessionEvent → String
  | .start id _ | .message id _ _ | .finish id => id

/-- The sessions other than one hear what a pass tells them and nothing else. -/
def HearOnly (server : Server) (id : String) (pass : Option (Server × String)) (after : Server) :
    Prop :=
  ∀ other, other ≠ id →
    match pass with
    | none => after.standing? other = server.standing? other
    | some (mid, roomId) =>
      mid.standing? other = server.standing? other ∧
        after.standing? other = (mid.rebalance roomId).standing? other

theorem HearOnly.of_standing? {pass : Option (Server × String)}
    (h : server.HearOnly id pass before)
    (hafter : ∀ other, other ≠ id → after.standing? other = before.standing? other) :
    server.HearOnly id pass after := by
  intro other hne
  have hbefore := h other hne
  cases pass with
  | none => exact (hafter other hne).trans hbefore
  | some pass => exact ⟨hbefore.1, (hafter other hne).trans hbefore.2⟩

theorem hearOnly_none (hafter : ∀ other, other ≠ id →
    after.standing? other = server.standing? other) : server.HearOnly id none after :=
  hafter

/-- A session that leaves or moves tells nobody but through the pass over its old room. -/
theorem hearOnly_leaveRoom (server : Server) (id : String) :
    server.HearOnly id (server.departure? id) (server.leaveRoom id) := by
  intro other hne
  have hcleared : ∀ node, ((server.setMembership id none).removeSender node id).standing? other =
      server.standing? other := by
    intro node
    have hsame : (server.setMembership id none).standing? other = server.standing? other := by
      rw [standing?_setMembership, if_neg hne]
    rw [← hsame, removeSender]
    split <;> rfl
  unfold departure? leaveRoom
  cases server.membership? id with
  | none => rfl
  | some m =>
    dsimp only
    generalize ((server.setMembership id none).removeSender m.node id).hub.leaveSession
      m.room m.node id = result
    obtain ⟨left, hub⟩ := result
    cases left with
    | true => exact ⟨hcleared m.node, rfl⟩
    | false => exact hcleared m.node

theorem standing?_send_of_ne (hne : other ≠ id) (message : Message) :
    (server.send id message).server.standing? other = server.standing? other := by
  unfold send
  split
  · have hdelivered : (server.deliver id message).standing? other = server.standing? other := by
      rw [standing?_deliver, if_neg hne]
    exact hdelivered
  · rfl

theorem standing?_decideFor_of_ne (hne : other ≠ id) :
    (server.decideFor id m).server.standing? other = server.standing? other := by
  unfold decideFor
  split
  · rfl
  · exact standing?_send_of_ne hne _

theorem hearOnly_react (inbound : Inbound) :
    server.HearOnly id (server.passFor? id now inbound) (server.react id now inbound).server := by
  cases inbound with
  | join request =>
    apply (hearOnly_leaveRoom server id).of_standing?
    intro other hne
    have hjoined : ((server.leaveRoom id).joined id (request.membership id)
        (request.arrival id now)).standing? other = (server.leaveRoom id).standing? other := by
      rw [standing?_joined, if_neg hne]
    rw [react, handleJoin_eq, standing?_decideFor_of_ne hne, hjoined]
  | leave => exact hearOnly_leaveRoom server id
  | publish request =>
    intro other hne
    unfold passFor? react handlePublish
    cases server.membership? id with
    | none => rfl
    | some m =>
      dsimp only
      cases server.hub.publish m.room m.node request.stream request.media with
      | error e => rfl
      | ok result => exact ⟨rfl, rfl⟩
  | metrics load =>
    intro other hne
    unfold passFor? react handleMetrics
    cases server.membership? id with
    | none => rfl
    | some m =>
      dsimp only
      cases server.hub.report m.room m.node load now with
      | error e => rfl
      | ok result =>
        obtain ⟨assignment, hub⟩ := result
        have hdelivered : ({ server with hub }.deliver id (Message.role id assignment)).standing?
            other = server.standing? other :=
          (standing?_deliver _).trans (if_neg hne)
        have hhere : { server with hub }.isListening id = server.isListening id := rfl
        dsimp only
        unfold send
        rw [hhere]
        by_cases hlistening : server.isListening id = true
        · rw [if_pos hlistening, if_pos hlistening]
          exact ⟨hdelivered, rfl⟩
        · rw [if_neg hlistening, if_neg hlistening]
          rfl
  | _ => exact hearOnly_none fun other _ => (quiet_react rfl).standing other

/-- What other sessions hear while a server handles an event is what the pass tells them. -/
theorem hearOnly_step (server : Server) (event : SessionEvent) :
    server.HearOnly event.session (server.passOf? event) (server.step event) := by
  cases event with
  | start id listening =>
    apply hearOnly_none
    intro other hne
    cases server.handled_step (.start id listening) with
    | refused hquiet => exact hquiet.standing other
    | opened hnew hquiet =>
      have hid : other ≠ id := hne
      rw [hquiet.standing, standing?_opened, if_neg hid]
  | message id now message =>
    rw [passOf?, step]
    by_cases hlive : server.isLive id = true
    · rw [if_pos hlive, if_pos hlive]
      cases hinbound : message.inbound with
      | error e =>
        rw [handle_of_malformed hinbound]
        exact hearOnly_none fun _ _ => rfl
      | ok inbound =>
        exact (hearOnly_react inbound).of_standing? fun other _ =>
          (quiet_handle hinbound).standing other
    · rw [if_neg hlive, if_neg hlive]
      exact hearOnly_none fun _ _ => rfl
  | finish id =>
    rw [passOf?, step]
    by_cases hlive : server.isLive id = true
    · rw [if_pos hlive, if_pos hlive]
      apply (hearOnly_leaveRoom server id).of_standing?
      intro other hne
      rw [quiet_finish.standing, standing?_erased, if_neg hne]
    · rw [if_neg hlive, if_neg hlive]
      exact hearOnly_none fun _ _ => rfl

/-! ## Passes over well-kept registries -/

theorem routed_rebalance_iff : (server.rebalance roomId).Routed ↔ server.Routed := by
  have howner : ∀ otherRoom nodeId, (server.rebalance roomId).hub.owner? otherRoom nodeId =
      server.hub.owner? otherRoom nodeId := by
    intro otherRoom nodeId
    rw [Hub.owner?_eq, tenant?_rebalance, ← Hub.owner?_eq]
  unfold Routed
  simp only [howner, (sameSeats_rebalance roomId).senders]

/-- The pass over the room of a departing session finds the registry as the departure leaves it. -/
theorem leaveRoom_of_departure? (h : server.departure? id = some (mid, roomId)) :
    server.leaveRoom id = mid.rebalance roomId := by
  unfold departure? at h
  unfold leaveRoom
  cases hm : server.membership? id with
  | none =>
    rw [hm] at h
    exact nomatch h
  | some m =>
    rw [hm] at h
    dsimp only at h ⊢
    generalize ((server.setMembership id none).removeSender m.node id).hub.leaveSession
      m.room m.node id = result at h ⊢
    obtain ⟨left, hub⟩ := result
    cases left with
    | true =>
      obtain ⟨rfl, rfl⟩ := Prod.mk.inj (Option.some.inj h)
      rfl
    | false => exact nomatch h

theorem Accounted.routed_departure? (h : server.Accounted) (hrouted : server.Routed)
    (hpass : server.departure? id = some (mid, roomId)) : mid.Routed := by
  have hleft := h.routed_leaveRoom hrouted id
  rw [leaveRoom_of_departure? hpass] at hleft
  exact routed_rebalance_iff.1 hleft

theorem Accounted.routed_passFor? (h : server.Accounted) (hrouted : server.Routed)
    {inbound : Inbound} (hpass : server.passFor? id now inbound = some (mid, roomId)) :
    mid.Routed := by
  cases inbound with
  | join request => exact h.routed_departure? hrouted hpass
  | leave => exact h.routed_departure? hrouted hpass
  | publish request =>
    unfold passFor? at hpass
    cases hm : server.membership? id with
    | none =>
      rw [hm] at hpass
      cases hpass
    | some m =>
      rw [hm] at hpass
      dsimp only at hpass
      have hpublished :=
        Hub.sheds_publish server.hub m.room m.node request.stream request.media
      split at hpass
      · cases hpass
      · rename_i stream hub hpublish
        obtain ⟨rfl, rfl⟩ := Prod.mk.inj (Option.some.inj hpass)
        rw [hpublish, Hub.settle] at hpublished
        exact hrouted.of_sheds hpublished rfl
  | metrics load =>
    unfold passFor? at hpass
    cases hm : server.membership? id with
    | none =>
      rw [hm] at hpass
      cases hpass
    | some m =>
      rw [hm] at hpass
      dsimp only at hpass
      split at hpass
      · cases hpass
      · rename_i assignment hub hreport
        split at hpass
        · obtain ⟨rfl, rfl⟩ := Prod.mk.inj (Option.some.inj hpass)
          exact hrouted.of_sheds (Hub.upkeep_sheds.report hreport) rfl
        · cases hpass
  | _ => cases hpass

theorem Accounted.routed_passOf? (h : server.Accounted) (hrouted : server.Routed)
    {event : SessionEvent} (hpass : server.passOf? event = some (mid, roomId)) : mid.Routed := by
  unfold passOf? at hpass
  split at hpass
  · exact nomatch hpass
  · split at hpass
    · split at hpass
      · exact nomatch hpass
      · exact h.routed_passFor? hrouted hpass
    · exact nomatch hpass
  · split at hpass
    · exact h.routed_departure? hrouted hpass
    · exact nomatch hpass

/-! ## Runs -/

/-- Along a run, whatever assignment of a node is pushed always goes to the owner of the node and to
nobody else exactly when no session joins under the identifier of a node that another session owns
in another room.  Without such a join, each pass of the run tells every session the changes of the
nodes that it owns in the room and nothing else, and no other session than that of the event hears
of anything but the pass. -/
theorem pushesToOwners_along_run_iff (engine : MediaEngine) (options : LinkOptions)
    (policy : Policy Float) (events : List SessionEvent) :
    ((∀ done, done <+: events → ((new engine options policy).run done).PushesToOwners) ↔
        ∀ done event, done ++ [event] <+: events →
          ¬((new engine options policy).run done).Collides event) ∧
      ((∀ done event, done ++ [event] <+: events →
          ¬((new engine options policy).run done).Collides event) →
        ∀ done event, done ++ [event] <+: events →
          HearOnly ((new engine options policy).run done) event.session
              (passOf? ((new engine options policy).run done) event)
              (((new engine options policy).run done).step event) ∧
            ∀ mid roomId,
              passOf? ((new engine options policy).run done) event = some (mid, roomId) →
              mid.TellsOwners roomId) := by
  have haccounted : ∀ done, ((new engine options policy).run done).Accounted := fun done =>
    List.foldlRecOn done Server.step (accounted_new engine options policy)
      fun _ h event _ => h.step event
  have hlisten : ∀ done, ((new engine options policy).run done).AllListen := fun done =>
    List.foldlRecOn done Server.step (fun _ _ h => nomatch h) fun _ h event _ => h.step event
  have hrouted : (∀ done, done <+: events → ((new engine options policy).run done).Routed) ↔
      ∀ done event, done ++ [event] <+: events →
        ¬((new engine options policy).run done).Collides event :=
    Run.always_iff Collides (accounted_new engine options policy) (fun _ _ _ h => nomatch h)
      fun done event _ h => ⟨h.step event, fun hgood => h.routed_step_iff hgood event⟩
  constructor
  · rw [← hrouted]
    constructor
    · intro hpush done hdone
      exact (pushesToOwners_iff (haccounted done) (hlisten done)).1 (hpush done hdone)
    · intro hnamed done hdone
      exact (pushesToOwners_iff (haccounted done) (hlisten done)).2 (hnamed done hdone)
  · intro hfree done event hdone
    refine ⟨hearOnly_step _ event, ?_⟩
    intro mid roomId hpass
    have hbefore := hrouted.2 hfree done ((List.prefix_append done [event]).trans hdone)
    exact ((haccounted done).routed_passOf? hbefore hpass).tellsOwners roomId

/-- Two sessions join the room `r`, one of them as the node `x`, and a third one joins another room
as `x`. -/
def collision : List SessionEvent :=
  let entry (room node : String) (forwards : Bool) : Message :=
    { type := "join"
      data := some
        (JoinRequest.toJson { room, node := some node, capabilities := ⟨forwards, 0, 3⟩ }) }
  [.start "a" true, .start "b" true, .start "c" true, .message "a" 0 (entry "r" "x" true),
    .message "b" 0 (entry "r" "y" false), .message "c" 0 (entry "q" "x" true)]

/-- The second session publishes a stream. -/
def publication : SessionEvent :=
  .message "b" 0 { type := "publish", data := some (PublishRequest.toJson ⟨"s", .audio⟩) }

/-- How many messages a session was sent. -/
def heard (server : Server) (id : String) : Nat :=
  ((server.sessions.get? id).map (fun session => session.sent.length)).getD 0

/-- What becomes of the node `x` of the room `r` is told to the session in the other room, and not
to the session that owns the node. -/
theorem push_astray_after_collision :
    let server := new (MediaEngine.onHost Host.isolated) {} Policy.standard
    (¬∀ done, done <+: collision → (server.run done).PushesToOwners) ∧
      (server.run (collision ++ [publication])).heard "a" = (server.run collision).heard "a" ∧
      (server.run (collision ++ [publication])).heard "c" = (server.run collision).heard "c" + 1 := by
  intro server
  refine ⟨?_, by decide +kernel, by decide +kernel⟩
  rw [(pushesToOwners_along_run_iff _ _ _ _).1]
  intro hnone
  refine hnone collision.dropLast _ List.prefix_rfl ⟨by decide +kernel, _, rfl, ?_⟩
  exact ⟨"r", "a", by decide, by decide, by decide +kernel⟩

end Server

end RelayMesh
