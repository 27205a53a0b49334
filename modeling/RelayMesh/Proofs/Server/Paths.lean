import RelayMesh.Proofs.Run
import RelayMesh.Proofs.Server.Stages
import RelayMesh.Proofs.Server.Superseded

/-!
# Media paths of nodes

A node carries the link of the session that joined as it, and a link that is
closed stays closed.  A session that leaves its room keeps its link for the
next one.  A node that is taken over or evicted loses its link: it is closed,
and the session lives on with it.

* `fst_join` and `mem_links_watch` say which links the hub gives back to be
  closed: those of the nodes that are taken out of their places.
* `closed?_attend_iff` is the history of a link: it gets closed when its
  session is dispossessed, and it stays closed until the session finishes.
* `attend_pathsOpen_iff` says which events put a closed link into a room:
  exactly the joins of sessions that were dispossessed before.
-/

namespace RelayMesh

namespace Hub

variable {α : Type} {hub after : Hub α} {roomId nodeId link : String}

/-! ## Links that are given back -/

/-- An arrival gives back the link of the node that had its place. -/
theorem fst_join (node : Node α) :
    (hub.join roomId nodeId node).1 = (hub.tenant? roomId nodeId).bind Prod.snd := by
  have hplace : hub.tenant? roomId nodeId =
      (((hub.createRoom roomId).rooms.get? roomId).getD ∅).tenant? nodeId := by
    rw [getD_createRoom]
    exact look_getD.symm
  rw [hplace, join, Room.tenant?, Room.look]
  cases (((hub.createRoom roomId).rooms.get? roomId).getD ∅).nodes.get? nodeId <;> rfl

/-- A node that is taken out gives back its link. -/
theorem tenant?_leave {found : Option String} (h : hub.leave roomId nodeId = .ok (found, after)) :
    (∃ owner, hub.tenant? roomId nodeId = some (owner, found)) ∧ ∀ otherRoom other,
      after.tenant? otherRoom other =
        if otherRoom = roomId ∧ other = nodeId then none else hub.tenant? otherRoom other := by
  obtain ⟨room, node, hroom, hnode, rfl, rfl⟩ := leave_eq_ok h
  refine ⟨⟨node.session, ?_⟩, fun _ _ => tenant?_departed hroom⟩
  exact (look_of_get? hroom).trans (Room.look_of_get? _ hnode)

variable [Scalar α]

/-- The nodes that are taken out one after the other give back their links.  The induction is from
the end of the list, where the nodes are that leave last. -/
theorem mem_links_leaveAll (hub : Hub α) (nodes : List (String × String)) :
    link ∈ (hub.leaveAll nodes).1 ↔
      ∃ roomId nodeId owner, hub.tenant? roomId nodeId = some (owner, some link) ∧
        (hub.leaveAll nodes).2.tenant? roomId nodeId = none := by
  induction nodes using List.reverseRecOn with
  | nil =>
    constructor
    · intro h
      exact nomatch h
    · rintro ⟨roomId, nodeId, owner, hbefore, hafter⟩
      rw [show (hub.leaveAll []).2 = hub from rfl, hbefore] at hafter
      exact nomatch hafter
  | append_singleton rest head ih =>
    have hsheds : Sheds hub (hub.leaveAll rest).2 := upkeep_sheds.thinning.leaveAll rest
    obtain ⟨roomId, nodeId⟩ := head
    unfold Hub.leaveAll at ih hsheds ⊢
    rw [List.foldl_concat]
    generalize List.foldl _ _ rest = between at ih hsheds ⊢
    dsimp only
    split
    · rename_i found after hleave
      obtain ⟨⟨owner, hfound⟩, hafter⟩ := tenant?_leave hleave
      rw [List.mem_append, ih]
      constructor
      · rintro (⟨otherRoom, other, owner', hbefore, hgone⟩ | hlink)
        · refine ⟨otherRoom, other, owner', hbefore, ?_⟩
          rw [hafter, hgone, ite_self]
        · rw [Option.mem_toList.1 hlink] at hfound
          exact ⟨roomId, nodeId, owner, hsheds.tenant hfound, by rw [hafter, if_pos ⟨rfl, rfl⟩]⟩
      · rintro ⟨otherRoom, other, owner', hbefore, hgone⟩
        rw [hafter] at hgone
        split at hgone
        · rename_i heq
          right
          rw [heq.1, heq.2, hsheds.tenant hfound] at hbefore
          exact Option.mem_toList.2 (Prod.mk.inj (Option.some.inj hbefore)).2
        · exact .inl ⟨otherRoom, other, owner', hbefore, hgone⟩
    · exact ih

theorem tenant?_rebalanceAll (rooms : List String) :
    (hub.rebalanceAll rooms).tenant? roomId nodeId = hub.tenant? roomId nodeId := by
  unfold Hub.rebalanceAll
  induction rooms generalizing hub with
  | nil => rfl
  | cons head rest ih =>
    rw [List.foldl_cons]
    refine ih.trans ?_
    split
    · rename_i changes after hrebalance
      exact look_rebalance (fun _ _ _ => rfl) hrebalance
    · rfl

/-- A round of the watch gives back the links of the nodes that it takes out. -/
theorem mem_links_watch {now : Instant} {eviction : Eviction α}
    (h : hub.watch now = .ok eviction) :
    link ∈ eviction.links ↔
      ∃ roomId nodeId owner, hub.tenant? roomId nodeId = some (owner, some link) ∧
        eviction.hub.tenant? roomId nodeId = none := by
  unfold Hub.watch Hub.evict at h
  cases hcutoff : hub.cutoff now with
  | error e =>
    rw [hcutoff] at h
    exact nomatch h
  | ok cutoff =>
    rw [hcutoff] at h
    rw [← Except.ok.inj h]
    simp only [tenant?_rebalanceAll]
    cases cutoff with
    | none => exact mem_links_leaveAll hub []
    | some cutoff => exact mem_links_leaveAll hub (hub.silentSince cutoff)

end Hub

namespace Link

theorem closed_create {engine : MediaEngine} {link after : Link}
    (h : link.create engine = .ok after) : after.closed = false := by
  unfold create at h
  split at h
  · exact nomatch h
  · rename_i hopen
    rw [Bool.not_eq_true] at hopen
    split at h
    · rw [← Except.ok.inj h, hopen]
    · split at h
      · rw [← Except.ok.inj h]
        exact hopen
      · exact nomatch h

end Link

namespace Server

variable {server : Server} {id other roomId nodeId : String} {now : Instant}

/-! ## Links of sessions -/

/-- Whether the link of a session is closed; `none` if the session is not live. -/
def closed? (server : Server) (id : String) : Option Bool :=
  (server.sessions.get? id).map (fun session => session.link.closed)

theorem closed?_modifySession {f : Session → Session}
    (h : ∀ session, (f session).link.closed = session.link.closed) :
    (server.modifySession id f).closed? other = server.closed? other := by
  rw [closed?, closed?, modifySession, Table.get?_modify]
  split
  · rw [Option.map_map]
    exact Option.map_congr fun session _ => h session
  · rfl

theorem closed?_deliver (message : Message) :
    (server.deliver id message).closed? other = server.closed? other := by
  refine closed?_modifySession fun session => ?_
  split <;> rfl

theorem stages_closed? : Stages fun before after => ∀ id, after.closed? id = before.closed? id where
  refl _ _ := rfl
  trans h h' id := (h' id).trans (h id)
  hub _ _ _ := rfl
  senders _ _ _ := rfl
  move _ _ _ _ _ := rfl
  membership _ _ _ _ := closed?_modifySession fun _ => rfl
  link {server id session link} hsession hclosed other := by
    rw [closed?, setLink, modifySession, Table.get?_modify, closed?]
    split
    · rename_i heq
      rw [heq, hsession]
      exact congrArg some hclosed
    · rfl
  message _ _ _ _ _ := closed?_deliver _

theorem closed?_closeLinks (ids : List String) :
    (server.closeLinks ids).closed? id =
      if id ∈ ids then (server.closed? id).map (fun _ => true) else server.closed? id := by
  unfold closeLinks
  induction ids generalizing server with
  | nil => rfl
  | cons head rest ih =>
    have hclose : (server.closeLink head).closed? id =
        if id = head then (server.closed? id).map (fun _ => true) else server.closed? id := by
      rw [closed?, closeLink, modifySession, Table.get?_modify, closed?]
      split
      · rw [Option.map_map, Option.map_map]
        rfl
      · rfl
    rw [List.foldl_cons, ih, hclose]
    by_cases hhead : id = head <;> by_cases hrest : id ∈ rest <;>
      cases server.closed? id <;> simp [hhead, hrest]

/-! ## The history of a link -/

/-- Another session joins as the node that a session owns, or the watch takes the node out. -/
def Dispossesses (server : Server) (event : ServerEvent) (id : String) : Prop :=
  ∃ roomId nodeId, server.hub.owner? roomId nodeId = some (some id) ∧
    match event with
    | .session (.message other _ message) =>
      other ≠ id ∧ server.isLive other = true ∧ ∃ request,
        message.inbound = .ok (.join request) ∧ request.membership other = ⟨roomId, nodeId⟩
    | .watch _ => (server.attend event).hub.owner? roomId nodeId = none
    | _ => False

theorem closed?_eq_none (h : ¬server.isLive id = true) : server.closed? id = none := by
  rw [isLive, Table.contains, Bool.not_eq_true, Option.isSome_eq_false_iff,
    Option.isNone_iff_eq_none] at h
  rw [closed?, h]
  rfl

theorem exists_closed? (h : server.isLive id = true) : ∃ closed, server.closed? id = some closed := by
  obtain ⟨session, hsession⟩ := Option.isSome_iff_exists.1 h
  exact ⟨session.link.closed, congrArg (Option.map _) hsession⟩

/-- A session that owns a node is live and knows the node. -/
theorem Accounted.of_owner? (h : server.Accounted)
    (howner : server.hub.owner? roomId nodeId = some (some id)) :
    server.hub.tenant? roomId nodeId = some (some id, some id) ∧
      server.membership? id = some ⟨roomId, nodeId⟩ := by
  rw [Hub.owner?_eq] at howner
  obtain ⟨tenant, htenant, hid⟩ := Option.map_eq_some_iff.1 howner
  obtain ⟨other, rfl, hm⟩ := h.owned htenant
  obtain rfl := Option.some.inj hid
  exact ⟨htenant, hm⟩

theorem closed?_start (hfresh : server.closed? id = none) (listening : Bool) :
    (server.start id listening).server.closed? other = some true ↔
      server.closed? other = some true := by
  unfold start
  dsimp only
  split
  · rfl
  · rename_i link hcreate
    split
    · have hopened : (((server.move id .new).opened id link).deliver id (Message.init id)).closed?
          other = if other = id then some false else server.closed? other := by
        rw [closed?_deliver, closed?, opened, Table.get?_insert]
        split
        · exact congrArg some (Link.closed_create hcreate)
        · rfl
      refine (Eq.congr_left hopened).trans ?_
      split
      · rename_i heq
        rw [heq, hfresh]
        simp
      · rfl
    · rfl

theorem closed?_finish :
    (server.finish id).closed? other = if other = id then none else server.closed? other := by
  have herase : (server.finish id).closed? other =
      if other = id then none else ((server.leaveRoom id).closeLink id).closed? other := by
    rw [closed?, finish, Table.get?_erase]
    split <;> rfl
  rw [herase]
  split
  · rfl
  · rename_i hne
    have hclose : ((server.leaveRoom id).closeLink id).closed? other =
        (server.leaveRoom id).closed? other := by
      rw [closed?, closeLink, modifySession, Table.get?_modify, if_neg hne]
      rfl
    rw [hclose, stages_closed?.leaveRoom]

/-- The link that a join gives back is that of another session: its own node has left before. -/
theorem mem_fst_join_leaveRoom (h : server.Accounted) {m : Membership} (node : Node Float) :
    other ∈ ((server.leaveRoom id).hub.join m.room m.node node).1 ↔
      id ≠ other ∧ server.hub.owner? m.room m.node = some (some other) := by
  rw [Hub.fst_join, tenant?_leaveRoom]
  constructor
  · intro hmem
    split at hmem
    · cases hmem
    · rename_i hkept
      obtain ⟨tenant, htenant, hlink⟩ := Option.bind_eq_some_iff.1 hmem
      obtain ⟨owner, rfl, hm⟩ := h.owned htenant
      obtain rfl := Option.some.inj hlink
      have howner : server.hub.owner? m.room m.node = some (some owner) := by
        rw [Hub.owner?_eq, htenant]
        rfl
      refine ⟨?_, howner⟩
      rintro rfl
      exact hkept ⟨hm, howner⟩
  · rintro ⟨hne, howner⟩
    rw [if_neg, (h.of_owner? howner).1]
    · rfl
    · rw [howner]
      rintro ⟨-, heq⟩
      exact hne (Option.some.inj (Option.some.inj heq)).symm

/-- An arrival closes the link of the node that it replaces. -/
theorem closed?_handleJoin (h : server.Accounted) (request : JoinRequest) :
    (server.handleJoin id request now).server.closed? other =
      if id ≠ other ∧ server.hub.owner? (request.membership id).room (request.membership id).node =
          some (some other)
      then (server.closed? other).map (fun _ => true) else server.closed? other := by
  have hleft : (server.leaveRoom id).closed? other = server.closed? other :=
    stages_closed?.leaveRoom id other
  rw [handleJoin_eq, stages_closed?.welcomed, admitted, ← hleft]
  refine (closed?_closeLinks _).trans (if_congr ?_ rfl rfl)
  rw [Option.mem_toList]
  exact mem_fst_join_leaveRoom h _

/-- To report a failure closes no link. -/
theorem closed?_handle {message : Message} {inbound : Inbound}
    (hinbound : message.inbound = .ok inbound) :
    (server.handle id now message).server.closed? other =
      (server.react id now inbound).server.closed? other := by
  rw [handle, hinbound]
  dsimp only
  split
  · rfl
  · split
    · unfold send
      split
      · exact closed?_deliver _
      · rfl
    · rfl

theorem closed?_message_iff (h : server.Accounted) (message : Message) :
    (server.step (.message id now message)).closed? other = some true ↔
      server.closed? other = some true ∨
        server.Dispossesses (.session (.message id now message)) other := by
  have hidle : ∀ {after : Server}, after.closed? other = server.closed? other →
      ¬server.Dispossesses (.session (.message id now message)) other →
      (after.closed? other = some true ↔ server.closed? other = some true ∨
        server.Dispossesses (.session (.message id now message)) other) := by
    intro after hsame hnot
    rw [hsame, or_iff_left hnot]
  rw [Server.step]
  split
  · rename_i hlive
    cases hinbound : message.inbound with
    | error e =>
      rw [handle_of_malformed hinbound]
      refine hidle rfl ?_
      rintro ⟨roomId, nodeId, -, -, -, request, hjoin, -⟩
      rw [hinbound] at hjoin
      cases hjoin
    | ok inbound =>
      rw [closed?_handle hinbound]
      by_cases hjoin : ∃ request, inbound = .join request
      · obtain ⟨request, rfl⟩ := hjoin
        rw [react, closed?_handleJoin h]
        split
        · rename_i htaken
          have hlost := isLive_of_membership? (h.of_owner? htaken.2).2
          obtain ⟨closed, hclosed⟩ := exists_closed? hlost
          rw [hclosed]
          refine iff_of_true rfl (.inr ?_)
          exact ⟨_, _, htaken.2, htaken.1, hlive, request, hinbound, rfl⟩
        · rename_i hkept
          refine (or_iff_left ?_).symm
          rintro ⟨roomId, nodeId, howner, hne, -, request', hinbound', hplace⟩
          rw [hinbound] at hinbound'
          cases hinbound'
          rw [hplace] at hkept
          exact hkept ⟨hne, howner⟩
      · refine hidle (stages_closed?.react (fun request heq => hjoin ⟨request, heq⟩) other) ?_
        rintro ⟨roomId, nodeId, -, -, -, request, hinbound', -⟩
        rw [hinbound] at hinbound'
        exact hjoin ⟨request, Except.ok.inj hinbound'⟩
  · rename_i hgone
    refine hidle rfl ?_
    rintro ⟨roomId, nodeId, -, -, hlive, -⟩
    exact hgone hlive

theorem attend_watch_of_ok {eviction : Eviction Float}
    (h : server.hub.watch now = .ok eviction) :
    server.attend (.watch now) =
      { server with hub := eviction.hub }.closeLinks eviction.links := by
  rw [attend, watch, h]
  rfl

theorem attend_watch_of_error {e : ClockError} (h : server.hub.watch now = .error e) :
    server.attend (.watch now) = server := by
  rw [attend, watch, h]
  rfl

theorem closed?_watch_iff (h : server.Accounted) :
    (server.attend (.watch now)).closed? id = some true ↔
      server.closed? id = some true ∨ server.Dispossesses (.watch now) id := by
  unfold Dispossesses
  dsimp only
  cases hwatch : server.hub.watch now with
  | error e =>
    rw [attend_watch_of_error hwatch]
    refine (or_iff_left ?_).symm
    rintro ⟨roomId, nodeId, howner, hgone⟩
    rw [howner] at hgone
    exact nomatch hgone
  | ok eviction =>
    have hlost : id ∈ eviction.links ↔ ∃ roomId nodeId,
        server.hub.owner? roomId nodeId = some (some id) ∧
          (server.attend (.watch now)).hub.owner? roomId nodeId = none := by
      have hhub : (server.attend (.watch now)).hub = eviction.hub := by
        rw [attend_watch_of_ok hwatch]
        exact (quiet_closeLinks _).hub
      rw [Hub.mem_links_watch hwatch, hhub]
      constructor
      · rintro ⟨roomId, nodeId, owner, htenant, hgone⟩
        obtain ⟨other, heq, -⟩ := h.owned htenant
        rw [← Option.some.inj (Prod.mk.inj heq).2] at heq
        refine ⟨roomId, nodeId, ?_, ?_⟩
        · rw [Hub.owner?_eq, htenant, heq]
          rfl
        · rw [Hub.owner?_eq, hgone]
          rfl
      · rintro ⟨roomId, nodeId, howner, hgone⟩
        rw [Hub.owner?_eq] at hgone
        exact ⟨roomId, nodeId, some id, (h.of_owner? howner).1, Option.map_eq_none_iff.1 hgone⟩
    rw [← hlost, attend_watch_of_ok hwatch, closed?_closeLinks]
    split
    · rename_i hmem
      obtain ⟨roomId, nodeId, howner, -⟩ := hlost.1 hmem
      obtain ⟨closed, hbefore⟩ := exists_closed? (isLive_of_membership? (h.of_owner? howner).2)
      have hsame : ({ server with hub := eviction.hub } : Server).closed? id = some closed := hbefore
      rw [hsame]
      exact iff_of_true rfl (.inr hmem)
    · rename_i hspared
      rw [or_iff_left hspared]
      rfl

/-- A link is closed when its session has been dispossessed and has not finished since. -/
theorem closed?_attend_iff (h : server.Accounted) (event : ServerEvent) (id : String) :
    (server.attend event).closed? id = some true ↔
      event ≠ .session (.finish id) ∧
        (server.closed? id = some true ∨ server.Dispossesses event id) := by
  cases event with
  | session event =>
    cases event with
    | start session listening =>
      have hnot : ¬server.Dispossesses (.session (.start session listening)) id := by
        rintro ⟨-, -, -, ⟨⟩⟩
      rw [or_iff_left hnot, attend, Server.step]
      split
      · simp
      · rename_i hfresh
        rw [closed?_start (closed?_eq_none hfresh)]
        simp
    | message session now message =>
      rw [attend, closed?_message_iff h]
      simp
    | finish session =>
      have hnot : ¬server.Dispossesses (.session (.finish session)) id := by
        rintro ⟨-, -, -, ⟨⟩⟩
      rw [or_iff_left hnot, attend, Server.step]
      by_cases heq : id = session
      · subst heq
        split
        · simp [closed?_finish]
        · rename_i hgone
          simp [closed?_eq_none hgone]
      · split
        · rw [closed?_finish, if_neg heq]
          simp [Ne.symm heq]
        · simp [Ne.symm heq]
  | watch now =>
    rw [closed?_watch_iff h]
    simp
  | hangUp session =>
    have hnot : ¬server.Dispossesses (.hangUp session) id := by
      rintro ⟨-, -, -, ⟨⟩⟩
    have hsame : (server.stopListening session).closed? id = server.closed? id :=
      closed?_modifySession fun _ => rfl
    rw [or_iff_left hnot, attend, hsame]
    simp

/-! ## Nodes with closed links -/

/-- No node carries the closed link of a session that is live. -/
def PathsOpen (server : Server) : Prop :=
  ∀ roomId nodeId owner link, server.hub.tenant? roomId nodeId = some (owner, some link) →
    server.closed? link ≠ some true

/-- A session whose link is closed asks to join a room. -/
def Reuses (server : Server) (event : ServerEvent) : Prop :=
  ∃ id now message, event = .session (.message id now message) ∧ message.Joins ∧
    server.closed? id = some true

theorem tenant?_of_leaveRoom {tenant : Option String × Option String}
    (h : (server.leaveRoom id).hub.tenant? roomId nodeId = some tenant) :
    server.hub.tenant? roomId nodeId = some tenant := by
  rw [tenant?_leaveRoom] at h
  split at h
  · exact nomatch h
  · exact h

/-- Only a join puts a node into a room, for the session that asks for it. -/
theorem tenant?_react {inbound : Inbound} {tenant : Option String × Option String}
    (h : (server.react id now inbound).server.hub.tenant? roomId nodeId = some tenant) :
    server.hub.tenant? roomId nodeId = some tenant ∨
      (∃ request, inbound = .join request) ∧ tenant = (some id, some id) := by
  cases inbound with
  | join request =>
    rw [react, handleJoin_eq] at h
    have hjoined := sheds_decideFor.tenant h
    rw [hub_joined, Hub.tenant?_join] at hjoined
    split at hjoined
    · exact .inr ⟨⟨request, rfl⟩, (Option.some.inj hjoined).symm⟩
    · exact .inl (tenant?_of_leaveRoom hjoined)
  | publish request => exact .inl ((sheds_handlePublish request).tenant h)
  | metrics load => exact .inl ((sheds_handleMetrics load).tenant h)
  | leave => exact .inl (tenant?_of_leaveRoom h)
  | _ =>
    rw [(quiet_react rfl).hub] at h
    exact .inl h

theorem tenant?_attend {event : ServerEvent} {tenant : Option String × Option String}
    (h : (server.attend event).hub.tenant? roomId nodeId = some tenant) :
    server.hub.tenant? roomId nodeId = some tenant ∨
      ∃ id now message, event = .session (.message id now message) ∧ message.Joins ∧
        tenant = (some id, some id) := by
  cases event with
  | session event =>
    rw [attend] at h
    cases server.handled_step event with
    | refused hquiet =>
      rw [hquiet.hub] at h
      exact .inl h
    | opened hnew hquiet =>
      rw [hquiet.hub] at h
      exact .inl h
    | ignored hmalformed hquiet =>
      rw [hquiet.hub] at h
      exact .inl h
    | answered hlive hinbound hquiet =>
      rename_i id now message inbound
      rw [hquiet.hub] at h
      obtain hbefore | ⟨⟨request, rfl⟩, htenant⟩ := tenant?_react h
      · exact .inl hbefore
      · exact .inr ⟨id, now, message, rfl, ⟨request, hinbound⟩, htenant⟩
    | absent hgone hquiet =>
      rw [hquiet.hub] at h
      exact .inl h
    | finished hquiet =>
      rw [hquiet.hub] at h
      exact .inl (tenant?_of_leaveRoom h)
  | watch now =>
    cases hwatch : server.hub.watch now with
    | error e =>
      rw [attend_watch_of_error hwatch] at h
      exact .inl h
    | ok eviction =>
      rw [attend_watch_of_ok hwatch, (quiet_closeLinks _).hub] at h
      exact .inl ((Hub.upkeep_sheds.watch hwatch).tenant h)
  | hangUp session => exact .inl h

/-- A session that joins owns a node afterwards. -/
theorem tenant?_message_join {message : Message} {request : JoinRequest}
    (hlive : server.isLive id = true) (hinbound : message.inbound = .ok (.join request))
    (now : Instant) :
    (server.attend (.session (.message id now message))).hub.tenant? (request.membership id).room
      (request.membership id).node = some (some id, some id) := by
  have hjoined : ((server.leaveRoom id).joined id (request.membership id)
      (request.arrival id now)).hub.tenant? (request.membership id).room
        (request.membership id).node = some (some id, some id) := by
    rw [hub_joined, Hub.tenant?_join, if_pos ⟨rfl, rfl⟩]
    rfl
  rw [attend, hub_step_message hlive hinbound, react, handleJoin_eq, decideFor]
  split
  · exact hjoined
  · rename_i assignment hub hevaluate
    rw [hub_send]
    exact (Hub.tenant?_evaluate hevaluate).trans hjoined

/-- A session that is dispossessed owned one node and owns none afterwards. -/
theorem Accounted.tenant?_of_dispossesses (h : server.Accounted) {event : ServerEvent}
    (hlost : server.Dispossesses event id) {owner : Option String} :
    (server.attend event).hub.tenant? roomId nodeId ≠ some (owner, some id) := by
  intro htenant
  obtain ⟨lostRoom, lostNode, howner, hevent⟩ := hlost
  obtain hbefore | ⟨joining, now, message, rfl, hjoins, hnew⟩ := tenant?_attend htenant
  · -- the session knows one place, so this is the place that it loses
    have hplace : (⟨lostRoom, lostNode⟩ : Membership) = ⟨roomId, nodeId⟩ := by
      obtain ⟨other, heq, hm⟩ := h.owned hbefore
      rw [← Option.some.inj (Prod.mk.inj heq).2, (h.of_owner? howner).2] at hm
      exact Option.some.inj hm
    obtain ⟨rfl, rfl⟩ := Membership.mk.inj hplace
    split at hevent
    · rename_i other now message
      obtain ⟨hne, hlive, request, hinbound, hmembership⟩ := hevent
      have htaken := tenant?_message_join hlive hinbound now
      rw [hmembership, htenant] at htaken
      exact hne (Option.some.inj (Prod.mk.inj (Option.some.inj htaken)).2).symm
    · rw [Hub.owner?_eq, htenant] at hevent
      exact nomatch hevent
    · exact hevent
  · exact hevent.1 (Option.some.inj (Prod.mk.inj hnew).2).symm

/-- An event puts a closed link into a room exactly when a session whose link is closed joins. -/
theorem attend_pathsOpen_iff (h : server.Accounted) (hopen : server.PathsOpen)
    (event : ServerEvent) : (server.attend event).PathsOpen ↔ ¬server.Reuses event := by
  constructor
  · rintro hafter ⟨id, now, message, rfl, hjoins, hclosed⟩
    have hlive : server.isLive id = true := by
      by_contra hgone
      rw [closed?_eq_none hgone] at hclosed
      exact nomatch hclosed
    obtain ⟨request, hinbound⟩ := hjoins
    refine hafter _ _ _ id (tenant?_message_join hlive hinbound now) ?_
    exact (closed?_attend_iff h (.session (.message id now message)) id).2
      ⟨(fun heq => nomatch heq), .inl hclosed⟩
  · intro hfirst roomId nodeId owner link htenant hclosed
    obtain ⟨-, hbefore | hlost⟩ := (closed?_attend_iff h event link).1 hclosed
    · -- the link was closed before, so the node has just come in
      obtain hold | ⟨id, now, message, heq, hjoins, hnew⟩ := tenant?_attend htenant
      · exact hopen roomId nodeId owner link hold hbefore
      · rw [Option.some.inj (Prod.mk.inj hnew).2] at hbefore
        exact hfirst ⟨id, now, message, heq, hjoins, hbefore⟩
    · exact h.tenant?_of_dispossesses hlost htenant

theorem pathsOpen_new (engine : MediaEngine) (options : LinkOptions) (policy : Policy Float) :
    (new engine options policy).PathsOpen :=
  fun _ _ _ _ h => nomatch h

/-- No node carries the closed link of a live session in any state of a run, exactly when no session
whose link is closed joins a room on the way.  The link of a session gets closed when another
session joins as its node, and when the watch evicts its node; it then stays closed until the
session finishes. -/
theorem paths_open_along_run_iff (engine : MediaEngine) (options : LinkOptions)
    (policy : Policy Float) (events : List ServerEvent) :
    ((∀ done, done <+: events → ((new engine options policy).attendAll done).PathsOpen) ↔
        ∀ done event, done ++ [event] <+: events →
          ¬((new engine options policy).attendAll done).Reuses event) ∧
      ∀ done event id, done ++ [event] <+: events →
        (((new engine options policy).attendAll (done ++ [event])).closed? id = some true ↔
          event ≠ .session (.finish id) ∧
            (((new engine options policy).attendAll done).closed? id = some true ∨
              ((new engine options policy).attendAll done).Dispossesses event id)) := by
  constructor
  · refine Run.always_iff Reuses (accounted_new engine options policy)
      (pathsOpen_new engine options policy) fun done event _ haccounted => ?_
    exact ⟨haccounted.attend event, fun hopen => attend_pathsOpen_iff haccounted hopen event⟩
  · intro done event id _
    have haccounted : ((new engine options policy).attendAll done).Accounted :=
      (accounted_new engine options policy).attendAll done
    rw [attendAll, List.foldl_concat]
    exact closed?_attend_iff haccounted event id

/-- A session joins, loses its node to another one and joins another room. -/
def detour : List ServerEvent :=
  let entry (room : String) : Message :=
    { type := "join", data := some (JoinRequest.toJson { room, node := some "x" }) }
  [.session (.start "a" true), .session (.start "b" true),
    .session (.message "a" 0 (entry "r")), .session (.message "b" 0 (entry "r")),
    .session (.message "a" 0 (entry "q"))]

/-- The session has carried its closed link into the other room. -/
theorem path_closed_along_detour :
    ¬∀ done, done <+: detour →
      ((new (MediaEngine.onHost Host.isolated) {} Policy.standard).attendAll done).PathsOpen := by
  rw [(paths_open_along_run_iff _ _ _ _).1]
  intro hnone
  refine hnone detour.dropLast _ List.prefix_rfl ⟨"a", 0, _, rfl, ⟨_, rfl⟩, ?_⟩
  decide +kernel

end Server

end RelayMesh
