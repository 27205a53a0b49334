import RelayMesh.Proofs.Server.Accounted

/-!
# Sessions that have lost their node

A session remembers as which node it joined.  Another session may join as the
same node since, or the watch may evict the node, and the session does not
learn of it.

* What bears on no room, and a departure, changes nothing then
  (`hub_step_of_lost`): a departure asks whether the session still owns the
  node.
* To publish and to report, the server asks for the node only.  If it is gone,
  they fail and change nothing (`hub_step_of_gone`).  If another session owns
  it, they are carried out for that session's node
  (`publishes_step`, `look_step_metrics`).
-/

namespace RelayMesh

namespace Room

variable {α : Type} {room : Room α} {id name : String}

theorem publishes_iff_mem_streamInfos :
    room.publishes id name = true ↔
      ∃ info ∈ room.streamInfos, info.stream = name ∧ info.source = id := by
  rw [publishes_iff]
  constructor
  · rintro ⟨stream, hget, hsource⟩
    exact ⟨stream.info name, mem_streamInfos.2 ⟨stream, hget, rfl⟩, rfl, hsource⟩
  · rintro ⟨info, hinfo, rfl, hsource⟩
    obtain ⟨stream, hget, heq⟩ := mem_streamInfos.1 hinfo
    rw [← heq] at hsource
    exact ⟨stream, hget, hsource⟩

theorem publishes_rebalance [Scalar α] {policy : Policy α} (h : room.publishes id name = true) :
    (room.rebalance policy).2.publishes id name = true := by
  rw [publishes_iff_mem_streamInfos] at h ⊢
  rw [streamInfos_rebalance]
  exact h

end Room

/-! ## What messages ask for -/

namespace Message

/-- The message asks to join a room. -/
def Joins (message : Message) : Prop :=
  ∃ request, message.inbound = .ok (.join request)

/-- The message publishes a stream of the node of its session, or reports for it. -/
def Drives (message : Message) : Prop :=
  (∃ request, message.inbound = .ok (.publish request)) ∨
    ∃ load, message.inbound = .ok (.metrics load)

end Message

namespace Server

variable {server : Server} {id : String} {m : Membership} {now : Instant} {message : Message}

/-! ## Sessions whose node is gone -/

theorem not_contains_of_gone (hgone : server.hub.owner? m.room m.node = none)
    {room : Room Float} (hroom : server.hub.rooms.get? m.room = some room) :
    room.nodes.contains m.node = false := by
  rw [Hub.owner?, Hub.look_of_get? hroom, Room.look, Option.map_eq_none_iff] at hgone
  rw [Table.contains, hgone]
  rfl

theorem hub_handlePublish_of_gone (hm : server.membership? id = some m)
    (hgone : server.hub.owner? m.room m.node = none) (request : PublishRequest) :
    (server.handlePublish id request).server.hub = server.hub := by
  obtain ⟨e, hrefused⟩ := Hub.publish_of_absent (fun _ hroom => not_contains_of_gone hgone hroom)
    request.stream request.media
  rw [handlePublish, hm]
  dsimp only
  rw [hrefused]
  rfl

theorem hub_handleMetrics_of_gone (hm : server.membership? id = some m)
    (hgone : server.hub.owner? m.room m.node = none) (load : Load Float) (now : Instant) :
    (server.handleMetrics id load now).server.hub = server.hub := by
  obtain ⟨e, hrefused⟩ := Hub.report_of_absent (fun _ hroom => not_contains_of_gone hgone hroom)
    load now
  rw [handleMetrics, hm]
  dsimp only
  rw [hrefused]
  rfl

/-! ## Messages of sessions that have lost their node -/

theorem hub_leaveRoom_of_lost (hm : server.membership? id = some m)
    (hlost : server.hub.owner? m.room m.node ≠ some (some id)) :
    (server.leaveRoom id).hub = server.hub := by
  rw [leaveRoom_of_ne hm hlost, hub_removeSender]
  rfl

/-- Carrying out what a message asks for is all that handling it does to the rooms. -/
theorem hub_step_message (hlive : server.isLive id = true) {inbound : Inbound}
    (hinbound : message.inbound = .ok inbound) :
    (server.step (.message id now message)).hub = (server.react id now inbound).server.hub := by
  rw [step, if_pos hlive]
  exact (quiet_handle hinbound).hub

theorem hub_step_of_malformed {e : RelayError} (hinbound : message.inbound = .error e) :
    (server.step (.message id now message)).hub = server.hub := by
  rw [step]
  split
  · rw [handle_of_malformed hinbound]
  · rfl

/-- What a session that has lost its node asks for changes no room, unless it joins, publishes or
reports. -/
theorem hub_step_of_lost (hm : server.membership? id = some m)
    (hlost : server.hub.owner? m.room m.node ≠ some (some id)) (hjoins : ¬message.Joins)
    (hdrives : ¬message.Drives) : (server.step (.message id now message)).hub = server.hub := by
  cases hinbound : message.inbound with
  | error e => exact hub_step_of_malformed hinbound
  | ok inbound =>
    rw [hub_step_message (isLive_of_membership? hm) hinbound]
    cases inbound with
    | join request => exact absurd ⟨request, hinbound⟩ hjoins
    | publish request => exact absurd (.inl ⟨request, hinbound⟩) hdrives
    | metrics load => exact absurd (.inr ⟨load, hinbound⟩) hdrives
    | leave => exact hub_leaveRoom_of_lost hm hlost
    | init | offer | answer | connected | unknown => exact (quiet_react rfl).hub

/-- What a session whose node is gone asks for changes no room, unless it joins. -/
theorem hub_step_of_gone (hm : server.membership? id = some m)
    (hgone : server.hub.owner? m.room m.node = none) (hjoins : ¬message.Joins) :
    (server.step (.message id now message)).hub = server.hub := by
  have hlive : server.isLive id = true := isLive_of_membership? hm
  by_cases hdrives : message.Drives
  · rcases hdrives with ⟨request, hinbound⟩ | ⟨load, hinbound⟩
    · rw [hub_step_message hlive hinbound]
      exact hub_handlePublish_of_gone hm hgone request
    · rw [hub_step_message hlive hinbound]
      exact hub_handleMetrics_of_gone hm hgone load now
  · have hlost : server.hub.owner? m.room m.node ≠ some (some id) := by
      simp [hgone]
    exact hub_step_of_lost hm hlost hjoins hdrives

/-! ## Messages about a node that is there -/

variable {owner : Option String}

theorem exists_publishes_rebalance {roomId name : String} {room : Room Float}
    (hroom : server.hub.rooms.get? roomId = some room) (h : room.publishes id name = true) :
    ∃ after, (server.rebalance roomId).hub.rooms.get? roomId = some after ∧
      after.publishes id name = true := by
  refine ⟨(room.rebalance server.hub.policy).2, ?_, Room.publishes_rebalance h⟩
  rw [rebalance_of_get? hroom, hub_pushRoles]
  exact get?_revised roomId _

/-- Whoever owns the node, what its former session publishes becomes a stream of the node. -/
theorem publishes_step (hm : server.membership? id = some m)
    (howner : server.hub.owner? m.room m.node = some owner) {request : PublishRequest}
    (hinbound : message.inbound = .ok (.publish request)) :
    ∃ room, (server.step (.message id now message)).hub.rooms.get? m.room = some room ∧
      room.publishes m.node request.stream = true := by
  obtain ⟨room, node, hroom, hnode, -⟩ := Hub.exists_of_owner? howner
  have hcontains : room.nodes.contains m.node = true := Table.contains_iff.2 ⟨node, hnode⟩
  rw [hub_step_message (isLive_of_membership? hm) hinbound, react]
  cases hpublishes : room.publishes m.node request.stream with
  | true =>
    rw [handlePublish_of_publishes hm hroom hcontains hpublishes]
    exact exists_publishes_rebalance hroom hpublishes
  | false =>
    have hfresh : (room.withFresh request.stream m.node request.media).publishes m.node
        request.stream = true := by
      refine Room.publishes_iff.2 ⟨{ source := m.node, media := request.media }, ?_, rfl⟩
      rw [Room.get?_streams_withFresh, if_pos rfl]
    rw [handlePublish_of_fresh hm hroom hcontains hpublishes]
    exact exists_publishes_rebalance (get?_revised m.room _) hfresh

/-- Whoever owns the node, a report of its former session is kept as what the node reported last. -/
theorem look_step_metrics (hm : server.membership? id = some m)
    (howner : server.hub.owner? m.room m.node = some owner) {load : Load Float}
    (hinbound : message.inbound = .ok (.metrics load)) :
    (server.step (.message id now message)).hub.look (fun _ node => (node.load, node.lastReport))
      m.room m.node = some (load, now) := by
  obtain ⟨room, node, hroom, hnode, -⟩ := Hub.exists_of_owner? howner
  obtain ⟨kept, hub, hreport, hkept⟩ := Hub.exists_report hroom hnode load now
  rw [hub_step_message (isLive_of_membership? hm) hinbound, react, handleMetrics, hm]
  dsimp only
  rw [hreport]
  dsimp only
  unfold Outcome.andThen
  split
  · refine (look_rebalance (f := fun node => (node.load, node.lastReport))
      fun _ _ _ => rfl).trans ?_
    rw [hub_send]
    exact hkept
  · rw [hub_send]
    exact hkept

/-! ## The result -/

/-- A report that can be read. -/
def idleReport : Message where
  type := "metrics"
  data := some (Load.toJson Load.zero)

theorem inbound_idleReport : ∃ load, idleReport.inbound = .ok (.metrics load) :=
  ⟨_, rfl⟩

/-- A session remembers a node, and does not own it.  None of its messages changes a room unless it
joins, publishes or reports.  If the node is still there, what the session publishes becomes a
stream of the node, and what it reports is kept as the node's report.  So exactly when the node is
gone, no message but a join changes a room. -/
theorem superseded_changes_no_room_iff (hm : server.membership? id = some m)
    (hlost : server.hub.owner? m.room m.node ≠ some (some id)) :
    (∀ now message, ¬message.Joins → ¬message.Drives →
        (server.step (.message id now message)).hub = server.hub) ∧
      (server.hub.owner? m.room m.node ≠ none →
        (∀ now message request, message.inbound = .ok (.publish request) →
          ∃ room, (server.step (.message id now message)).hub.rooms.get? m.room = some room ∧
            room.publishes m.node request.stream = true) ∧
        ∀ now message load, message.inbound = .ok (.metrics load) →
          (server.step (.message id now message)).hub.look
            (fun _ node => (node.load, node.lastReport)) m.room m.node = some (load, now)) ∧
      ((∀ now message, ¬message.Joins →
          (server.step (.message id now message)).hub = server.hub) ↔
        server.hub.owner? m.room m.node = none) := by
  refine ⟨fun now message => hub_step_of_lost hm hlost, fun hpresent => ?_, ?_⟩
  · obtain ⟨owner, howner⟩ := Option.ne_none_iff_exists'.1 hpresent
    exact ⟨fun now message request => publishes_step hm howner,
      fun now message load => look_step_metrics hm howner⟩
  · constructor
    · intro hsilent
      by_contra hpresent
      obtain ⟨owner, howner⟩ := Option.ne_none_iff_exists'.1 hpresent
      obtain ⟨room, node, hroom, hnode, -⟩ := Hub.exists_of_owner? howner
      obtain ⟨load, hinbound⟩ := inbound_idleReport
      have hjoins : ¬idleReport.Joins := by
        rintro ⟨request, hjoin⟩
        rw [hinbound] at hjoin
        cases hjoin
      -- a report that comes later than the last one is kept
      have hkept : (server.step (.message id (node.lastReport + 1) idleReport)).hub.look
          (fun _ node => (node.load, node.lastReport)) m.room m.node =
            some (load, node.lastReport + 1) := look_step_metrics hm howner hinbound
      rw [hsilent _ _ hjoins, Hub.look_of_get? hroom, Room.look_of_get? _ hnode] at hkept
      have hlater : node.lastReport = node.lastReport + 1 :=
        (Prod.mk.inj (Option.some.inj hkept)).2
      exact absurd hlater (Int.ne_of_lt (Int.lt_succ node.lastReport))
    · intro hgone now message
      exact hub_step_of_gone hm hgone

/-- Two sessions join as the same node, one after the other. -/
def usurped : Server :=
  let entry := JoinRequest.toJson { room := "r", node := some "x" }
  (new (MediaEngine.onHost Host.isolated) {} Policy.standard).run
    [.start "a" true, .start "b" true,
      .message "a" 0 { type := "join", data := some entry },
      .message "b" 0 { type := "join", data := some entry }]

/-- The session that joined first has lost the node to the other one and can still change a room. -/
theorem superseded_changes_usurped :
    usurped.membership? "a" = some ⟨"r", "x"⟩ ∧
      usurped.hub.owner? "r" "x" = some (some "b") ∧
      ¬∀ now message, ¬message.Joins →
        (usurped.step (.message "a" now message)).hub = usurped.hub := by
  have hm : usurped.membership? "a" = some ⟨"r", "x"⟩ := by decide +kernel
  have howner : usurped.hub.owner? "r" "x" = some (some "b") := by decide +kernel
  have hlost : usurped.hub.owner? "r" "x" ≠ some (some "a") := by
    rw [howner]
    decide
  refine ⟨hm, howner, fun hsilent => ?_⟩
  have hgone := (superseded_changes_no_room_iff hm hlost).2.2.1 hsilent
  rw [howner] at hgone
  cases hgone

end Server

end RelayMesh
