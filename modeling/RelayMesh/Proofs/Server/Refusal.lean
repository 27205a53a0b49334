import RelayMesh.Proofs.Server.Stages

/-!
# Frames that are refused

A text frame may be dropped, carried out, or refused with a failure that the
session survives; then the session is told the failure.  A handler works in
several stages, and a refusal must not come after a stage that can be seen.

What a session was sent between two states of a server is `Server.news`.

* `reportsNothing_react` says that nothing which a peer asks for makes the
  server tell a failure on the way: what is sent then is never a message of
  the type `error`.
* `react_of_recoverable` says how far a handler has come when it fails so that
  the session goes on: nothing has changed, or an exchange of descriptions has
  failed, which bears on the link and the state of the session alone
  (`OnlyNegotiated`).
* `refused_frame_changes_nothing` puts the two together for text frames.
-/

namespace RelayMesh

/-! ## What frames ask for -/

/-- The peer offers or answers a description. -/
def Inbound.Negotiates (inbound : Inbound) : Prop :=
  ∃ payload, inbound = .offer payload ∨ inbound = .answer payload

namespace Message

/-- A text that holds no message, a message whose data are malformed, or one of an unknown type. -/
def Unusable (text : String) : Prop :=
  ∀ message inbound, Message.parse text = some message → message.inbound = .ok inbound →
    ∃ type, inbound = .unknown type

/-- A text that holds a message which asks for something. -/
def Asks (text : String) (inbound : Inbound) : Prop :=
  ∃ message, Message.parse text = some message ∧ message.inbound = .ok inbound

theorem Asks.unique {text : String} {inbound other : Inbound} (h : Asks text inbound)
    (h' : Asks text other) : inbound = other := by
  obtain ⟨message, hparse, hinbound⟩ := h
  obtain ⟨message', hparse', hinbound'⟩ := h'
  rw [hparse, Option.some.injEq] at hparse'
  rw [← hparse', hinbound] at hinbound'
  exact Except.ok.inj hinbound'

end Message

namespace Server

variable {server before between after : Server} {id other : String} {m : Membership}
  {now : Instant} {text : String}

/-! ## What sessions are sent -/

/-- The messages that a session was sent, oldest first. -/
def inbox (server : Server) (id : String) : List Message :=
  ((server.sessions.get? id).map Session.sent).getD []

/-- What a session was sent between two states of a server. -/
def news (before after : Server) (id : String) : List Message :=
  (after.inbox id).drop (before.inbox id).length

theorem news_of_append {messages : List Message}
    (h : after.inbox id = before.inbox id ++ messages) : news before after id = messages := by
  rw [news, h, List.drop_left]

theorem inbox_modifySession {f : Session → Session} (h : ∀ session, (f session).sent = session.sent) :
    (server.modifySession id f).inbox other = server.inbox other := by
  rw [inbox, inbox, modifySession, Table.get?_modify]
  split
  · rw [Option.map_map]
    exact congrArg (Option.getD · []) (Option.map_congr fun session _ => h session)
  · rfl

theorem inbox_deliver (message : Message) :
    (server.deliver id message).inbox other =
      server.inbox other ++ if other = id ∧ server.isListening id = true then [message] else [] := by
  rw [inbox, sessions_deliver]
  by_cases heq : other = id
  · subst heq
    rw [if_pos rfl, inbox, isListening]
    cases server.sessions.get? other with
    | none => simp
    | some session => cases hlistening : session.listening <;> simp [Session.hear, hlistening]
  · rw [if_neg heq, if_neg fun h => heq h.1, List.append_nil]
    rfl

/-! ## Sending no report of a failure -/

/-- Nobody loses a message, and nobody is sent one of the type `error`. -/
def ReportsNothing (before after : Server) : Prop :=
  ∀ id, ∃ messages, after.inbox id = before.inbox id ++ messages ∧
    ∀ message ∈ messages, message.type ≠ "error"

theorem ReportsNothing.of_inbox (h : ∀ id, after.inbox id = before.inbox id) :
    ReportsNothing before after :=
  fun id => ⟨[], (h id).trans (List.append_nil _).symm, fun _ hmem => nomatch hmem⟩

theorem ReportsNothing.refl (server : Server) : ReportsNothing server server :=
  .of_inbox fun _ => rfl

theorem ReportsNothing.trans (h : ReportsNothing before between)
    (h' : ReportsNothing between after) : ReportsNothing before after := by
  intro id
  obtain ⟨messages, hbetween, hmessages⟩ := h id
  obtain ⟨messages', hafter, hmessages'⟩ := h' id
  refine ⟨messages ++ messages', ?_, List.forall_mem_append.2 ⟨hmessages, hmessages'⟩⟩
  rw [hafter, hbetween, List.append_assoc]

theorem ReportsNothing.type_ne (h : ReportsNothing before after) {message : Message}
    (hmem : message ∈ news before after id) : message.type ≠ "error" := by
  obtain ⟨messages, hafter, hmessages⟩ := h id
  rw [news_of_append hafter] at hmem
  exact hmessages message hmem

theorem ReportsNothing.inbox_grows (h : ReportsNothing before after) (id : String) :
    before.inbox id <+: after.inbox id := by
  obtain ⟨messages, hafter, -⟩ := h id
  rw [hafter]
  exact List.prefix_append ..

theorem reportsNothing_modifySession {f : Session → Session}
    (h : ∀ session, (f session).sent = session.sent) :
    ReportsNothing server (server.modifySession id f) :=
  .of_inbox fun _ => inbox_modifySession h

theorem reportsNothing_closeLinks (ids : List String) :
    ReportsNothing server (server.closeLinks ids) := by
  unfold closeLinks
  induction ids generalizing server with
  | nil => exact .refl server
  | cons id rest ih =>
    have hclosed : ReportsNothing server (server.closeLink id) :=
      reportsNothing_modifySession fun _ => rfl
    exact hclosed.trans ih

theorem stages_reportsNothing : Stages ReportsNothing where
  refl := .refl
  trans := .trans
  hub _ _ := .of_inbox fun _ => rfl
  senders _ _ := .of_inbox fun _ => rfl
  move _ _ _ _ := .of_inbox fun _ => rfl
  membership _ _ _ := reportsNothing_modifySession fun _ => rfl
  link _ _ := reportsNothing_modifySession fun _ => rfl
  message server id message h := by
    intro other
    refine ⟨_, inbox_deliver message, fun found hfound => ?_⟩
    split at hfound
    · rw [List.mem_singleton.1 hfound]
      exact h
    · exact nomatch hfound

/-- Carrying out what a peer asks for reports no failure to anybody. -/
theorem reportsNothing_react (inbound : Inbound) :
    ReportsNothing server (server.react id now inbound).server := by
  by_cases hjoin : ∃ request, inbound = .join request
  · obtain ⟨request, rfl⟩ := hjoin
    have hadmitted : ReportsNothing (server.leaveRoom id)
        ((server.leaveRoom id).admitted (request.membership id) (request.arrival id now)) :=
      (stages_reportsNothing.hub _ _).trans (reportsNothing_closeLinks _)
    rw [react, handleJoin_eq]
    exact ((stages_reportsNothing.leaveRoom id).trans hadmitted).trans
      stages_reportsNothing.welcomed
  · exact stages_reportsNothing.react fun request heq => hjoin ⟨request, heq⟩

/-! ## Failures that a session survives -/

/-- Nothing but the link and the state of one session has changed. -/
structure OnlyNegotiated (before after : Server) (id : String) : Prop where
  quiet : Quiet before after
  inbox : ∀ other, after.inbox other = before.inbox other
  others : ∀ other, other ≠ id → after.sessions.get? other = before.sessions.get? other ∧
    after.lifecycle.states.get? other = before.lifecycle.states.get? other

theorem OnlyNegotiated.refl (server : Server) (id : String) : OnlyNegotiated server server id :=
  ⟨.refl server, fun _ => rfl, fun _ _ => ⟨rfl, rfl⟩⟩

theorem onlyNegotiated_setLink {lifecycle : Lifecycle} (link : Link)
    (h : ∀ other, other ≠ id →
      lifecycle.states.get? other = server.lifecycle.states.get? other) :
    OnlyNegotiated server ({ server with lifecycle }.setLink id link) id where
  quiet := by
    have hlink : Quiet { server with lifecycle } ({ server with lifecycle }.setLink id link) :=
      quiet_setLink link
    exact ⟨rfl, rfl, hlink.standing⟩
  inbox other := by
    have hlink : ({ server with lifecycle }.setLink id link).inbox other =
        { server with lifecycle }.inbox other := inbox_modifySession fun _ => rfl
    exact hlink
  others other hne := ⟨(Table.get?_modify ..).trans (if_neg hne), h other hne⟩

theorem get?_states_move_of_ne {lifecycle : Lifecycle} (h : other ≠ id) (state : SessionState) :
    (lifecycle.move id state).states.get? other = lifecycle.states.get? other := by
  unfold Lifecycle.move Lifecycle.transition
  dsimp only
  split
  · exact (Table.get?_insert ..).trans (if_neg h)
  · rfl

/-- A message that cannot be delivered is not a failure that the session survives. -/
theorem not_recoverable_send {message : Message} {e : RelayError}
    (h : (server.send id message).failure = some e) : e.isRecoverable = false := by
  unfold send at h
  split at h
  · exact nomatch h
  · rw [← Option.some.inj h]
    rfl

/-- The exchange that an offer begins fails at the link, or it gets as far as the answer to the
peer. -/
theorem handleOffer_cases (server : Server) (id : String) (payload : SdpPayload) :
    (∃ link e, server.handleOffer id payload =
        ((server.move id .negotiating).setLink id link).negotiationFails id e) ∨
      ∀ e, (server.handleOffer id payload).failure = some e → e.isRecoverable = false := by
  unfold handleOffer
  dsimp only
  split
  · exact .inr fun e h => nomatch h
  · split
    · exact .inl ⟨_, _, rfl⟩
    · split
      · exact .inl ⟨_, _, rfl⟩
      · exact .inr fun e h => not_recoverable_send h

theorem handleAnswer_cases (server : Server) (id : String) (payload : SdpPayload) :
    (∃ link e, server.handleAnswer id payload = (server.setLink id link).negotiationFails id e) ∨
      ∀ e, (server.handleAnswer id payload).failure = some e → e.isRecoverable = false := by
  unfold handleAnswer
  split
  · exact .inr fun e h => nomatch h
  · split
    · exact .inl ⟨_, _, rfl⟩
    · refine .inr fun e h => ?_
      unfold Outcome.andThen at h
      split at h
      · exact nomatch h
      · exact not_recoverable_send h

theorem onlyNegotiated_react {inbound : Inbound} {e : RelayError} (h : inbound.Negotiates)
    (hfails : (server.react id now inbound).failure = some e) (he : e.isRecoverable = true) :
    OnlyNegotiated server (server.react id now inbound).server id := by
  obtain ⟨payload, rfl | rfl⟩ := h
  · obtain ⟨link, failure, heq⟩ | hsend := handleOffer_cases server id payload
    · rw [react, heq]
      refine onlyNegotiated_setLink link fun other hne => ?_
      exact (get?_states_move_of_ne hne _).trans (get?_states_move_of_ne hne _)
    · rw [hsend e hfails] at he
      exact absurd he Bool.false_ne_true
  · obtain ⟨link, failure, heq⟩ | hsend := handleAnswer_cases server id payload
    · rw [react, heq]
      exact onlyNegotiated_setLink link fun other hne => get?_states_move_of_ne hne _
    · rw [hsend e hfails] at he
      exact absurd he Bool.false_ne_true

/-- A node that is in its room can be decided about. -/
theorem not_recoverable_decideFor {room : Room Float} {node : Node Float} {e : RelayError}
    (hroom : server.hub.rooms.get? m.room = some room)
    (hnode : room.nodes.get? m.node = some node)
    (h : (server.decideFor id m).failure = some e) : e.isRecoverable = false := by
  rw [decideFor, Hub.evaluate_of_get? hroom hnode] at h
  exact not_recoverable_send h

theorem get?_rooms_joined (node : Node Float) :
    (server.joined id m node).hub.rooms.get? m.room =
      some (((server.hub.rooms.get? m.room).getD ∅).addNode m.node node) := by
  rw [hub_joined, ← Hub.getD_createRoom]
  exact Hub.get?_withRoom_self ..

theorem not_recoverable_handleJoin {request : JoinRequest} {e : RelayError}
    (h : (server.handleJoin id request now).failure = some e) : e.isRecoverable = false := by
  rw [handleJoin_eq] at h
  apply not_recoverable_decideFor (get?_rooms_joined _) _ h
  · exact request.arrival id now
  · rw [Room.get?_nodes_addNode, if_pos rfl]

theorem server_handlePublish {request : PublishRequest} {e : RelayError}
    (h : (server.handlePublish id request).failure = some e) :
    (server.handlePublish id request).server = server := by
  unfold handlePublish at h ⊢
  split at h
  · rfl
  · split at h
    · rfl
    · exact nomatch h

theorem server_handleMetrics {load : Load Float} {e : RelayError}
    (h : (server.handleMetrics id load now).failure = some e) (he : e.isRecoverable = true) :
    (server.handleMetrics id load now).server = server := by
  unfold handleMetrics at h ⊢
  split at h
  · rfl
  · split at h
    · rfl
    · unfold Outcome.andThen at h
      split at h
      · exact nomatch h
      · rw [not_recoverable_send h] at he
        exact nomatch he

/-- What is not an exchange of descriptions fails before anything has changed, or in a way that the
session does not survive. -/
theorem server_react {inbound : Inbound} {e : RelayError} (h : ¬inbound.Negotiates)
    (hfails : (server.react id now inbound).failure = some e) (he : e.isRecoverable = true) :
    (server.react id now inbound).server = server := by
  cases inbound with
  | offer payload => exact absurd ⟨payload, .inl rfl⟩ h
  | answer payload => exact absurd ⟨payload, .inr rfl⟩ h
  | join request =>
    rw [not_recoverable_handleJoin hfails] at he
    exact nomatch he
  | publish request => exact server_handlePublish hfails
  | metrics load => exact server_handleMetrics hfails he
  | connected | init | unknown | leave => exact nomatch hfails

/-! ## Reports of failures -/

/-- One session was told a failure, and the failure has changed nothing but its link and state. -/
structure Reported (before after : Server) (id : String) (report : Message) : Prop where
  inbox : ∀ other, after.inbox other = before.inbox other ++ if other = id then [report] else []
  hub : after.hub = before.hub
  senders : after.senders = before.senders
  membership : ∀ other, after.membership? other = before.membership? other
  listening : ∀ other, after.isListening other = before.isListening other
  others : ∀ other, other ≠ id → after.sessions.get? other = before.sessions.get? other ∧
    after.lifecycle.states.get? other = before.lifecycle.states.get? other

theorem isListening_eq (server : Server) (id : String) :
    server.isListening id = (server.standing? id).any Standing.listening := by
  rw [isListening, standing?, Option.any_map]
  rfl

theorem Quiet.isListening (h : Quiet before after) (id : String) :
    after.isListening id = before.isListening id := by
  rw [isListening_eq, isListening_eq, h.standing]

theorem OnlyNegotiated.reported (h : OnlyNegotiated before between id) {report : Message}
    (htype : report.type ≠ "role") (hlistening : between.isListening id = true) :
    Reported before (between.deliver id report) id report := by
  have hquiet : Quiet before (between.deliver id report) := h.quiet.trans (quiet_deliver htype)
  constructor
  · intro other
    simp [inbox_deliver, hlistening, h.inbox]
  · exact hquiet.hub
  · exact hquiet.senders
  · exact hquiet.sameSeats.membership?
  · exact hquiet.isListening
  · intro other hne
    rw [sessions_deliver, if_neg hne]
    exact h.others other hne

/-- A text frame asks for something that fails in a way that the session survives. -/
def Refuses (server : Server) (id : String) (now : Instant) (text : String) (e : RelayError) :
    Prop :=
  ∃ inbound, Message.Asks text inbound ∧ (server.react id now inbound).failure = some e ∧
    e.isRecoverable = true

theorem handleText_of_unusable (h : Message.Unusable text) :
    server.handleText id now text = server.done := by
  unfold handleText
  split
  · rename_i message hparse
    unfold handle
    split
    · rfl
    · rename_i inbound hinbound
      obtain ⟨type, rfl⟩ := h message inbound hparse hinbound
      rfl
  · rfl

theorem handleText_of_asks {inbound : Inbound} {e : RelayError} (h : Message.Asks text inbound)
    (hfails : (server.react id now inbound).failure = some e) (he : e.isRecoverable = true) :
    server.handleText id now text =
      (server.react id now inbound).server.send id (Message.error id e.message) := by
  obtain ⟨message, hparse, hinbound⟩ := h
  rw [handleText, hparse]
  dsimp only
  rw [handle, hinbound]
  dsimp only
  rw [hfails]
  exact if_pos he

/-- How far a handler has come when it fails in a way that the session survives. -/
theorem react_of_recoverable {inbound : Inbound} {e : RelayError}
    (hfails : (server.react id now inbound).failure = some e) (he : e.isRecoverable = true) :
    OnlyNegotiated server (server.react id now inbound).server id ∧
      (¬inbound.Negotiates → (server.react id now inbound).server = server) := by
  by_cases h : inbound.Negotiates
  · exact ⟨onlyNegotiated_react h hfails he, absurd h⟩
  · have hsame := server_react h hfails he
    rw [hsame]
    exact ⟨.refl server id, fun _ => rfl⟩

/-- A session that takes messages is told why its frame is refused, and nothing else happens. -/
theorem reported_handleText {e : RelayError} (h : server.Refuses id now text e)
    (hlistening : server.isListening id = true) :
    (server.handleText id now text).failure = none ∧
      Reported server (server.handleText id now text).server id (Message.error id e.message) ∧
      ∀ inbound, Message.Asks text inbound → ¬inbound.Negotiates →
        (server.handleText id now text).server = server.deliver id (Message.error id e.message) := by
  obtain ⟨inbound, hasks, hfails, he⟩ := h
  obtain ⟨honly, hsame⟩ := react_of_recoverable hfails he
  have hstill : (server.react id now inbound).server.isListening id = true := by
    rw [honly.quiet.isListening, hlistening]
  have htold : server.handleText id now text =
      ((server.react id now inbound).server.deliver id (Message.error id e.message)).done := by
    rw [handleText_of_asks hasks hfails he]
    exact if_pos hstill
  rw [htold]
  refine ⟨rfl, honly.reported (by simp [Message.error]) hstill, ?_⟩
  intro other hother hnot
  rw [Message.Asks.unique hother hasks] at hnot
  exact congrArg (deliver · id _) (hsame hnot)

/-- Nothing is reported when nothing is refused, and when the session takes no messages. -/
theorem reportsNothing_of_untold
    (h : ¬∃ e, server.Refuses id now text e ∧ server.isListening id = true) :
    ReportsNothing server (server.handleText id now text).server := by
  unfold handleText
  split
  · rename_i message hparse
    unfold handle
    split
    · exact .refl server
    · rename_i inbound hinbound
      dsimp only
      split
      · exact reportsNothing_react inbound
      · rename_i e hfails
        split
        · rename_i he
          obtain ⟨honly, -⟩ := react_of_recoverable hfails he
          have hdeaf : ¬(server.react id now inbound).server.isListening id = true := by
            rw [honly.quiet.isListening]
            exact fun hlistening =>
              h ⟨e, ⟨inbound, ⟨message, hparse, hinbound⟩, hfails, he⟩, hlistening⟩
          rw [send, if_neg hdeaf]
          exact reportsNothing_react inbound
        · exact reportsNothing_react inbound
  · exact .refl server

/-- Messages that fail change nothing, in any state of a server.  A text frame that cannot be used is
dropped, without a trace.  When anybody is sent a message of the type `error`, the frame was refused
with a failure that the session survives; then its own session is told that failure, nobody is sent
anything else, and rooms, memberships and the sender registry are as before.  A refused exchange of
descriptions may have changed the link and the state of its session; every other refused frame
leaves just the report. -/
theorem refused_frame_changes_nothing (server : Server) (id : String) (now : Instant)
    (text : String) :
    (Message.Unusable text → server.handleText id now text = server.done) ∧
      (∀ other, server.inbox other <+: (server.handleText id now text).server.inbox other) ∧
      (∀ e, server.Refuses id now text e → server.isListening id = true →
        Message.error id e.message ∈ news server (server.handleText id now text).server id) ∧
      ∀ other message, message ∈ news server (server.handleText id now text).server other →
        message.type = "error" →
        ∃ e, server.Refuses id now text e ∧ (server.handleText id now text).failure = none ∧
          Reported server (server.handleText id now text).server id (Message.error id e.message) ∧
          ∀ inbound, Message.Asks text inbound → ¬inbound.Negotiates →
            (server.handleText id now text).server =
              server.deliver id (Message.error id e.message) := by
  refine ⟨handleText_of_unusable, ?_, ?_, ?_⟩
  · intro other
    by_cases hrefused : ∃ e, server.Refuses id now text e ∧ server.isListening id = true
    · obtain ⟨e, hrefuses, hlistening⟩ := hrefused
      obtain ⟨-, hreported, -⟩ := reported_handleText hrefuses hlistening
      rw [hreported.inbox]
      exact List.prefix_append ..
    · exact (reportsNothing_of_untold hrefused).inbox_grows other
  · intro e hrefuses hlistening
    obtain ⟨-, hreported, -⟩ := reported_handleText hrefuses hlistening
    have htold := hreported.inbox id
    rw [if_pos rfl] at htold
    rw [news_of_append htold]
    exact List.mem_singleton_self _
  · intro other message hmem htype
    by_cases hrefused : ∃ e, server.Refuses id now text e ∧ server.isListening id = true
    · obtain ⟨e, hrefuses, hlistening⟩ := hrefused
      exact ⟨e, hrefuses, reported_handleText hrefuses hlistening⟩
    · exact absurd htype ((reportsNothing_of_untold hrefused).type_ne hmem)

/-- A session that has joined no room may not publish, and is told so. -/
example :
    let server := (new (MediaEngine.onHost Host.isolated) {} Policy.standard).run [.start "a" true]
    let text := "\x7b\"type\":\"publish\",\"data\":\x7b\"stream_id\":\"s\"\x7d\x7d"
    ((server.handleText "a" 0 text).server.inbox "a").map Message.type = ["init", "error"] := by
  decide +kernel

end Server

end RelayMesh
