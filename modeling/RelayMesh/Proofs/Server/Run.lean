import RelayMesh.Proofs.Server.Ownership

/-!
# Runs of the server

A run of the server handles what its peers do, one after the other: a session
starts, sends a message, or finishes.  `Server.SessionEvent` names these
events and `Server.step` handles one of them.

The first part takes the handlers apart: `handleJoin_eq`,
`handlePublish_of_fresh`, `handlePublish_of_publishes` and `handleMetrics_eq`
say which stages they go through, and `handled_step` says what a step can come
to.  The second part puts the stages together again: as long as the sessions
join under different node identifiers, every step keeps the server consistent
(`Consistent.step`).
-/

namespace RelayMesh

/-- The node that a session is going to speak for. -/
def JoinRequest.membership (request : JoinRequest) (id : String) : Membership :=
  ⟨request.room, request.node.getD id⟩

/-- The node that joins for a session. -/
def JoinRequest.arrival (request : JoinRequest) (id : String) (now : Instant) : Node Float :=
  { Node.new (request.user.getD (request.node.getD id)) request.capabilities now with
    session := some id, link := some id }

/-- Whether a peer asks for nothing that bears on rooms. -/
def Inbound.isQuiet : Inbound → Bool
  | .join _ | .publish _ | .metrics _ | .leave => false
  | _ => true

namespace Server

variable {server : Server} {id other : String} {m : Membership} {room : Room Float}
  {node : Node Float} {now : Instant}

/-! ## The stages of the handlers -/

/-- A join is a departure, an arrival and a decision. -/
theorem handleJoin_eq (request : JoinRequest) :
    server.handleJoin id request now =
      ((server.leaveRoom id).joined id (request.membership id)
        (request.arrival id now)).decideFor id (request.membership id) := rfl

theorem handlePublish_of_fresh {request : PublishRequest} (hm : server.membership? id = some m)
    (hroom : server.hub.rooms.get? m.room = some room)
    (hnode : room.nodes.contains m.node = true)
    (hnew : room.publishes m.node request.stream = false) :
    server.handlePublish id request =
      ((server.revised m.room
        (room.withFresh request.stream m.node request.media)).rebalance m.room).done := by
  rw [handlePublish, hm]
  dsimp only
  rw [Hub.publish_of_fresh hroom hnode hnew]
  rfl

theorem handlePublish_of_publishes {request : PublishRequest}
    (hm : server.membership? id = some m) (hroom : server.hub.rooms.get? m.room = some room)
    (hnode : room.nodes.contains m.node = true)
    (hold : room.publishes m.node request.stream = true) :
    server.handlePublish id request = (server.rebalance m.room).done := by
  obtain ⟨found, hpublish⟩ := Hub.publish_of_publishes hroom hnode hold request.media
  rw [handlePublish, hm]
  dsimp only
  rw [hpublish]

/-- A report is kept, decided about and answered, and then the room is rebalanced. -/
theorem handleMetrics_eq (h : server.Consistent) {load : Load Float}
    (hm : server.membership? id = some m) (hroom : server.hub.rooms.get? m.room = some room)
    (hnode : room.nodes.get? m.node = some node) :
    server.handleMetrics id load now =
      (((server.revised m.room (room.reporting m.node load now)).decided id m
        (room.reporting m.node load now) (node.report load now)).rebalance m.room).done := by
  have hreporting : (server.hub.withRoom m.room (room.reporting m.node load now)).rooms.get?
      m.room = some (room.reporting m.node load now) := get?_revised m.room _
  have hlistening := (h.reporting hroom load now).isListening
    (((sameSeats_revised m.room _).membership? id).trans hm)
  rw [handleMetrics, hm]
  dsimp only
  rw [Hub.report_of_get? hroom hnode,
    Hub.evaluate_of_get? hreporting (Room.get?_nodes_reporting hnode)]
  exact congrArg (fun outcome : Outcome => outcome.andThen fun s => (s.rebalance m.room).done)
    (if_pos hlistening)

/-- A session that finishes leaves its room, and its record goes. -/
theorem quiet_finish : Quiet ((server.leaveRoom id).erased id) (server.finish id) := by
  refine ⟨rfl, rfl, fun other => ?_⟩
  have hfinish : (server.finish id).standing? other =
      (((server.leaveRoom id).closeLink id).erased id).standing? other := rfl
  rw [hfinish, standing?_erased, standing?_erased]
  split
  · rfl
  · exact quiet_closeLink.standing other

/-- A start opens a session, or it fails and opens none. -/
theorem quiet_start (server : Server) (id : String) (listening : Bool) :
    Quiet server (server.start id listening).server ∨
      ∃ link, Quiet (server.opened id link) (server.start id listening).server := by
  have hmove : Quiet server (server.move id .new) := quiet_move .new
  rw [start]
  split
  · left
    exact hmove.trans (quiet_move .failed)
  · rename_i link _
    split
    · right
      refine ⟨link, ?_⟩
      have hsend : Quiet (server.opened id link)
          ((server.opened id link).deliver id (Message.init id)) :=
        quiet_deliver (by simp [Message.init])
      exact ⟨hsend.hub, hsend.senders, hsend.standing⟩
    · left
      exact hmove

/-! ## Events -/

/-- What happens to the sessions of a server. -/
inductive SessionEvent where
  | start (id : String) (listening : Bool)
  | message (id : String) (now : Instant) (message : Message)
  | finish (id : String)

/-- Whether a session has started and not finished. -/
def isLive (server : Server) (id : String) : Bool :=
  server.sessions.contains id

/-- Handles an event.  The identifier of a new session is fresh, and only a session that has started
and not finished sends messages or finishes. -/
def step (server : Server) : SessionEvent → Server
  | .start id listening =>
    if server.isLive id then server else (server.start id listening).server
  | .message id now message =>
    if server.isLive id then (server.handle id now message).server else server
  | .finish id => if server.isLive id then server.finish id else server

/-- Handles events one after the other. -/
def run (server : Server) (events : List SessionEvent) : Server :=
  events.foldl step server

/-- The sessions that are in a room have nodes of pairwise distinct identifiers. -/
def DistinctNodes (server : Server) : Prop :=
  ∀ id other m m', server.membership? id = some m → server.membership? other = some m' →
    m.node = m'.node → id = other

theorem isLive_eq (server : Server) (id : String) :
    server.isLive id = (server.standing? id).isSome := by
  rw [standing?, Option.isSome_map]
  rfl

/-- A session that speaks for a node has started and not finished. -/
theorem isLive_of_membership? (hm : server.membership? id = some m) : server.isLive id = true := by
  obtain ⟨standing, hstanding, -⟩ := exists_standing hm
  rw [isLive_eq, hstanding]
  rfl

/-! ## What events come to -/

theorem quiet_react {inbound : Inbound} (h : inbound.isQuiet = true) :
    Quiet server (server.react id now inbound).server := by
  cases inbound with
  | offer payload =>
    rw [react]
    exact quiet_handleOffer payload
  | answer payload =>
    rw [react]
    exact quiet_handleAnswer payload
  | connected => exact quiet_move .connected
  | init => exact .refl server
  | unknown type => exact .refl server
  | _ => exact absurd h Bool.false_ne_true

/-- What a peer asks for is carried out in full before a failure is reported. -/
theorem quiet_handle {message : Message} {inbound : Inbound}
    (hinbound : message.inbound = .ok inbound) :
    Quiet (server.react id now inbound).server (server.handle id now message).server := by
  rw [handle, hinbound]
  dsimp only
  split
  · exact .refl _
  · split
    · exact quiet_send (by simp [Message.error])
    · exact .refl _

theorem handle_of_malformed {message : Message} {e : RelayError}
    (hinbound : message.inbound = .error e) :
    (server.handle id now message).server = server := by
  rw [handle, hinbound]
  rfl

/-- What it comes to when a server handles an event. -/
inductive Handled (server : Server) : SessionEvent → Server → Prop where
  /-- A start fails, or the session has started before. -/
  | refused {id : String} {listening : Bool} {after : Server} (hquiet : Quiet server after) :
    Handled server (.start id listening) after
  | opened {id : String} {listening : Bool} {link : Link} {after : Server}
      (hnew : server.standing? id = none) (hquiet : Quiet (server.opened id link) after) :
    Handled server (.start id listening) after
  /-- The message cannot be read, or the session is not live. -/
  | ignored {id : String} {now : Instant} {message : Message} {after : Server}
      (hmalformed : server.isLive id = true → ∃ e, message.inbound = .error e)
      (hquiet : Quiet server after) :
    Handled server (.message id now message) after
  | answered {id : String} {now : Instant} {message : Message} {inbound : Inbound} {after : Server}
      (hlive : server.isLive id = true) (hinbound : message.inbound = .ok inbound)
      (hquiet : Quiet (server.react id now inbound).server after) :
    Handled server (.message id now message) after
  | absent {id : String} {after : Server} (hgone : ¬server.isLive id = true)
      (hquiet : Quiet server after) :
    Handled server (.finish id) after
  | finished {id : String} {after : Server}
      (hquiet : Quiet ((server.leaveRoom id).erased id) after) :
    Handled server (.finish id) after

/-- The case split for everything that is said about steps. -/
theorem handled_step (server : Server) (event : SessionEvent) :
    server.Handled event (server.step event) := by
  cases event with
  | start id listening =>
    rw [Server.step]
    split
    · exact .refused (.refl server)
    · rename_i hfresh
      rcases quiet_start server id listening with hquiet | ⟨link, hquiet⟩
      · exact .refused hquiet
      · refine .opened ?_ hquiet
        rw [isLive_eq] at hfresh
        simpa using hfresh
  | message id now message =>
    rw [Server.step]
    split
    · rename_i hlive
      cases hinbound : message.inbound with
      | error e =>
        rw [handle_of_malformed hinbound]
        exact .ignored (fun _ => ⟨e, hinbound⟩) (.refl server)
      | ok inbound => exact .answered hlive hinbound (quiet_handle hinbound)
    · rename_i hgone
      exact .ignored (fun hlive => absurd hlive hgone) (.refl server)
  | finish id =>
    rw [Server.step]
    split
    · exact .finished quiet_finish
    · rename_i hgone
      exact .absent hgone (.refl server)

/-! ## Consistency along a run -/

theorem sameSeats_send (message : Message) :
    SameSeats server (server.send id message).server := by
  rw [send]
  split
  · exact sameSeats_deliver message
  · exact .refl server

theorem sameSeats_decideFor : SameSeats server (server.decideFor id m).server := by
  rw [decideFor]
  split
  · exact .refl server
  · exact (sameSeats_withHub _).trans (sameSeats_send _)

theorem membership?_joined_leaveRoom (hlive : server.isLive id = true) :
    ((server.leaveRoom id).joined id m node).membership? other =
      if other = id then some m else server.membership? other := by
  rw [membership?_joined, membership?_leaveRoom]
  · split <;> rfl
  · rw [isSome_standing?_leaveRoom, ← isLive_eq, hlive]

theorem membership?_handleJoin (hlive : server.isLive id = true) (request : JoinRequest) :
    (server.handleJoin id request now).server.membership? other =
      if other = id then some (request.membership id) else server.membership? other := by
  rw [handleJoin_eq, sameSeats_decideFor.membership?, membership?_joined_leaveRoom hlive]

/-- A join under an identifier that no other session uses finds the identifier free. -/
theorem free_of_distinct {request : JoinRequest} (hlive : server.isLive id = true)
    (hdistinct : (server.handleJoin id request now).server.DistinctNodes) :
    ∀ other m', (server.leaveRoom id).membership? other = some m' →
      m'.node ≠ (request.membership id).node := by
  intro other m' hother heq
  rw [membership?_leaveRoom] at hother
  split at hother
  · exact nomatch hother
  · rename_i hne
    refine hne (hdistinct other id m' (request.membership id) ?_ ?_ heq)
    · rw [membership?_handleJoin hlive, if_neg hne, hother]
    · rw [membership?_handleJoin hlive, if_pos rfl]

theorem Consistent.joined_leaveRoom (h : server.Consistent) {request : JoinRequest}
    (hlive : server.isLive id = true)
    (hdistinct : (server.handleJoin id request now).server.DistinctNodes) :
    ((server.leaveRoom id).joined id (request.membership id)
      (request.arrival id now)).Consistent := by
  have hstands : ((server.leaveRoom id).standing? id).isSome = true := by
    rw [isSome_standing?_leaveRoom, ← isLive_eq, hlive]
  exact (h.leaveRoom id).joined hstands membership?_leaveRoom_self
    (free_of_distinct hlive hdistinct) rfl rfl

/-- The node that a session has joined with is decided about, and the session is told. -/
theorem Consistent.decideFor_eq (h : server.Consistent) (hm : server.membership? id = some m) :
    ∃ room node, server.hub.rooms.get? m.room = some room ∧ room.nodes.get? m.node = some node ∧
      server.decideFor id m = (server.decided id m room node).done := by
  obtain ⟨room, node, hroom, hnode, -⟩ := h.exists_node hm
  exact ⟨room, node, hroom, hnode, decideFor_of_get? hroom hnode (h.isListening hm)⟩

theorem Consistent.handleJoin (h : server.Consistent) {request : JoinRequest}
    (hlive : server.isLive id = true)
    (hdistinct : (server.handleJoin id request now).server.DistinctNodes) :
    (server.handleJoin id request now).server.Consistent := by
  have hjoined := h.joined_leaveRoom hlive hdistinct
  obtain ⟨room, node, hroom, hnode, heq⟩ :=
    hjoined.decideFor_eq ((membership?_joined_leaveRoom hlive).trans (if_pos rfl))
  rw [handleJoin_eq, heq]
  exact hjoined.decided hroom hnode id

theorem Consistent.handlePublish (h : server.Consistent) (request : PublishRequest) :
    (server.handlePublish id request).server.Consistent := by
  cases hm : server.membership? id with
  | none =>
    rw [Server.handlePublish, hm]
    exact h
  | some m =>
    obtain ⟨room, node, hroom, hnode, -⟩ := h.exists_node hm
    have hcontains := Table.contains_iff.2 ⟨node, hnode⟩
    cases hpublishes : room.publishes m.node request.stream with
    | false =>
      rw [handlePublish_of_fresh hm hroom hcontains hpublishes]
      exact (h.withFresh hroom hcontains _ _).rebalance m.room
    | true =>
      rw [handlePublish_of_publishes hm hroom hcontains hpublishes]
      exact h.rebalance m.room

theorem Consistent.handleMetrics (h : server.Consistent) (load : Load Float) (now : Instant) :
    (server.handleMetrics id load now).server.Consistent := by
  cases hm : server.membership? id with
  | none =>
    rw [Server.handleMetrics, hm]
    exact h
  | some m =>
    obtain ⟨room, node, hroom, hnode, -⟩ := h.exists_node hm
    rw [handleMetrics_eq h hm hroom hnode]
    have hreporting := h.reporting hroom load now
    have hdecided := hreporting.decided (get?_revised m.room _)
      (Room.get?_nodes_reporting hnode) id
    exact hdecided.rebalance m.room

/-! ## Steps -/

theorem Quiet.distinctNodes {before after : Server} (h : Quiet before after)
    (hdistinct : after.DistinctNodes) : before.DistinctNodes := by
  intro id other m m' hm hm' heq
  refine hdistinct id other m m' ?_ ?_ heq
  · rw [h.sameSeats.membership?, hm]
  · rw [h.sameSeats.membership?, hm']

theorem Consistent.react (h : server.Consistent) (hlive : server.isLive id = true)
    {inbound : Inbound} (hdistinct : (server.react id now inbound).server.DistinctNodes) :
    (server.react id now inbound).server.Consistent := by
  cases inbound with
  | join request => exact h.handleJoin hlive hdistinct
  | publish request => exact h.handlePublish request
  | metrics load => exact h.handleMetrics load now
  | leave => exact h.leaveRoom id
  | _ => exact h.quiet (quiet_react rfl)

/-- Every event keeps a server consistent, unless it lets two sessions speak for nodes of the same
identifier. -/
theorem Consistent.step (h : server.Consistent) (event : SessionEvent)
    (hdistinct : (server.step event).DistinctNodes) : (server.step event).Consistent := by
  cases server.handled_step event with
  | refused hquiet => exact h.quiet hquiet
  | opened hnew hquiet => exact (h.opened hnew _).quiet hquiet
  | ignored _ hquiet => exact h.quiet hquiet
  | answered hlive _ hquiet => exact (h.react hlive (hquiet.distinctNodes hdistinct)).quiet hquiet
  | absent _ hquiet => exact h.quiet hquiet
  | finished hquiet =>
    exact ((h.leaveRoom _).erased membership?_leaveRoom_self).quiet hquiet

/-! ## Sessions that keep to one identifier -/

/-- The joins of every session are under the identifier that a function gives to the session. -/
def SessionEvent.JoinsUnder (name : String → String) : SessionEvent → Prop
  | .message id _ sent =>
    ∀ request, sent.inbound = .ok (.join request) → (request.membership id).node = name id
  | _ => True

/-- Every session in a room speaks for a node of the identifier that a function gives to the
session. -/
def NamesNodes (name : String → String) (server : Server) : Prop :=
  ∀ id m, server.membership? id = some m → m.node = name id

variable {name : String → String}

theorem NamesNodes.of_membership? {before after : Server} (h : before.NamesNodes name)
    (hsame : ∀ id m, after.membership? id = some m → before.membership? id = some m) :
    after.NamesNodes name :=
  fun id m hm => h id m (hsame id m hm)

theorem NamesNodes.of_sameSeats {before after : Server} (h : before.NamesNodes name)
    (hsame : SameSeats before after) : after.NamesNodes name :=
  h.of_membership? fun id _ hm => (hsame.membership? id).symm.trans hm

theorem NamesNodes.leaveRoom (h : server.NamesNodes name) (id : String) :
    (server.leaveRoom id).NamesNodes name := by
  refine h.of_membership? fun other m hm => ?_
  rw [membership?_leaveRoom] at hm
  split at hm
  · exact nomatch hm
  · exact hm

theorem sameSeats_handlePublish (request : PublishRequest) :
    SameSeats server (server.handlePublish id request).server := by
  rw [handlePublish]
  split
  · exact .refl server
  · split
    · exact .refl server
    · exact (sameSeats_withHub _).trans (sameSeats_rebalance _)

theorem sameSeats_andThen {outcome : Outcome} {next : Server → Outcome}
    (h : SameSeats server outcome.server) (hnext : ∀ s, SameSeats s (next s).server) :
    SameSeats server (outcome.andThen next).server := by
  rw [Outcome.andThen]
  split
  · exact h.trans (hnext _)
  · exact h

theorem sameSeats_handleMetrics (load : Load Float) (now : Instant) :
    SameSeats server (server.handleMetrics id load now).server := by
  rw [handleMetrics]
  split
  · exact .refl server
  · split
    · exact .refl server
    · refine sameSeats_andThen ?_ fun _ => sameSeats_rebalance _
      exact (sameSeats_withHub _).trans (sameSeats_send _)

theorem NamesNodes.react (h : server.NamesNodes name) (hlive : server.isLive id = true)
    {inbound : Inbound}
    (hname : ∀ request, inbound = .join request → (request.membership id).node = name id) :
    (server.react id now inbound).server.NamesNodes name := by
  cases inbound with
  | join request =>
    intro other m hm
    have hjoined := (membership?_handleJoin hlive request).symm.trans hm
    split at hjoined
    · rename_i heq
      rw [← Option.some.inj hjoined, heq]
      exact hname request rfl
    · exact h other m hjoined
  | publish request => exact h.of_sameSeats (sameSeats_handlePublish request)
  | metrics load => exact h.of_sameSeats (sameSeats_handleMetrics load now)
  | leave => exact h.leaveRoom id
  | _ => exact h.of_sameSeats (quiet_react rfl).sameSeats

theorem NamesNodes.step (h : server.NamesNodes name) {event : SessionEvent}
    (hname : event.JoinsUnder name) : (server.step event).NamesNodes name := by
  cases server.handled_step event with
  | refused hquiet => exact h.of_sameSeats hquiet.sameSeats
  | opened hnew hquiet =>
    refine NamesNodes.of_sameSeats ?_ hquiet.sameSeats
    exact h.of_membership? fun _ _ hm => (membership?_opened hnew _).symm.trans hm
  | ignored _ hquiet => exact h.of_sameSeats hquiet.sameSeats
  | answered hlive hinbound hquiet =>
    refine NamesNodes.of_sameSeats (h.react hlive fun request heq => ?_) hquiet.sameSeats
    rw [heq] at hinbound
    exact hname request hinbound
  | absent _ hquiet => exact h.of_sameSeats hquiet.sameSeats
  | finished hquiet =>
    rename_i id
    refine NamesNodes.of_sameSeats ?_ hquiet.sameSeats
    refine (h.leaveRoom id).of_membership? fun _ _ hm => ?_
    exact (membership?_erased membership?_leaveRoom_self).symm.trans hm

/-- Sessions that keep to identifiers of their own never speak for nodes of the same identifier. -/
theorem distinctNodes_run (hinjective : Function.Injective name) {events : List SessionEvent}
    (hname : ∀ event ∈ events, event.JoinsUnder name) (engine : MediaEngine)
    (options : LinkOptions) (policy : Policy Float) :
    ((new engine options policy).run events).DistinctNodes := by
  have hnames : ((new engine options policy).run events).NamesNodes name := by
    refine List.foldlRecOn events Server.step (motive := NamesNodes name) (fun _ _ hm => nomatch hm)
      fun _ h event hevent => h.step (hname event hevent)
  intro id other m m' hm hm' heq
  refine hinjective ?_
  rw [← hnames id m hm, ← hnames other m' hm', heq]

end Server

end RelayMesh
