import RelayMesh.Proofs.Table
import RelayMesh.Server.Handling

/-!
# What a session stands for

Most of a session record does not bear on assignments.  `Session.standing`
keeps what does: the node that the session speaks for, whether its peer takes
messages, and the last `role` message that it was sent.

* Every operation on a session record has one lemma that says what it does to
  the standings (`standing?_setMembership`, `standing?_deliver`, and the two
  lemmas about `pushRoles`).
* `Server.Quiet` relates two servers that differ only in links, lifecycles and
  other messages.  What links and descriptions do is quiet
  (`quiet_handleOffer`, `quiet_handleAnswer`), and so is the report of a
  failure (`quiet_send`).
-/

namespace RelayMesh

/-- What bears on the assignments of a session. -/
structure Standing where
  membership : Option Membership
  listening : Bool
  /-- The last `role` message that the session was sent. -/
  told : Option Message

/-- The standing after a message. -/
def Standing.hear (standing : Standing) (message : Message) : Standing :=
  if standing.listening ∧ message.type = "role" then { standing with told := some message }
  else standing

namespace Session

/-- The last `role` message that the session was sent. -/
def lastRole (session : Session) : Option Message :=
  (session.sent.filter (fun message => message.type = "role")).getLast?

/-- What bears on the assignments of the session. -/
def standing (session : Session) : Standing where
  membership := session.membership
  listening := session.listening
  told := session.lastRole

/-- The session with one more message, if its peer takes it. -/
def hear (session : Session) (message : Message) : Session :=
  if session.listening then { session with sent := session.sent ++ [message] } else session

/-- A peer that takes messages notices each of them. -/
theorem hear_ne {session : Session} (h : session.listening = true) (message : Message) :
    session.hear message ≠ session := by
  intro heq
  have hsent : session.sent ++ [message] = session.sent := by
    unfold hear at heq
    rw [if_pos h] at heq
    exact congrArg Session.sent heq
  simp at hsent

theorem standing_hear (session : Session) (message : Message) :
    (session.hear message).standing = session.standing.hear message := by
  cases hlistening : session.listening with
  | false => simp [hear, Standing.hear, standing, hlistening]
  | true =>
    by_cases htype : message.type = "role"
    · simp [hear, Standing.hear, standing, lastRole, hlistening, htype]
    · simp [hear, Standing.hear, standing, lastRole, hlistening, htype]

end Session

namespace Standing

variable {standing : Standing} {message : Message}

@[simp] theorem membership_hear : (standing.hear message).membership = standing.membership := by
  rw [hear]
  split <;> rfl

@[simp] theorem listening_hear : (standing.hear message).listening = standing.listening := by
  rw [hear]
  split <;> rfl

theorem hear_of_ne_role (h : message.type ≠ "role") : standing.hear message = standing := by
  rw [hear, if_neg fun hrole => h hrole.2]

theorem told_hear_role (h : standing.listening = true) (session : String)
    (assignment : Assignment) :
    (standing.hear (Message.role session assignment)).told =
      some (Message.role session assignment) := by
  rw [hear, if_pos ⟨h, rfl⟩]

/-- Hearing a message twice is hearing it once. -/
theorem hear_hear : (standing.hear message).hear message = standing.hear message := by
  simp only [hear]
  split <;> simp_all

end Standing

namespace Server

variable {server : Server} {id other : String}

/-- What bears on the assignments of a session that has started and not finished. -/
def standing? (server : Server) (id : String) : Option Standing :=
  (server.sessions.get? id).map Session.standing

theorem membership?_eq (server : Server) (id : String) :
    server.membership? id = (server.standing? id).bind Standing.membership := by
  rw [membership?, standing?]
  cases server.sessions.get? id <;> rfl

/-! ## Session records -/

theorem standing?_modifySession {f : Session → Session} {g : Standing → Standing}
    (h : ∀ session, (f session).standing = g session.standing) :
    (server.modifySession id f).standing? other =
      if other = id then (server.standing? other).map g else server.standing? other := by
  rw [standing?, standing?, modifySession, Table.get?_modify]
  split
  · cases server.sessions.get? other with
    | none => rfl
    | some session => exact congrArg some (h session)
  · rfl

theorem standing?_setMembership (membership : Option Membership) :
    (server.setMembership id membership).standing? other =
      if other = id then (server.standing? other).map (fun s => { s with membership })
      else server.standing? other :=
  standing?_modifySession fun _ => rfl

theorem standing?_deliver (message : Message) :
    (server.deliver id message).standing? other =
      if other = id then (server.standing? other).map (fun s => s.hear message)
      else server.standing? other :=
  standing?_modifySession fun session => session.standing_hear message

/-! ## Pushed assignments -/

/-- One assignment is told to the session of its node. -/
def pushRole (server : Server) (node : String) (assignment : Assignment) : Server :=
  match server.senders.get? node with
  | some session => server.deliver session (Message.role session assignment)
  | none => server

theorem pushRoles_cons (node : String) (assignment : Assignment)
    (rest : List (String × Assignment)) :
    server.pushRoles ((node, assignment) :: rest) =
      (server.pushRole node assignment).pushRoles rest := rfl

theorem hub_pushRole (node : String) (assignment : Assignment) :
    (server.pushRole node assignment).hub = server.hub := by
  rw [pushRole]
  split <;> rfl

theorem senders_pushRole (node : String) (assignment : Assignment) :
    (server.pushRole node assignment).senders = server.senders := by
  rw [pushRole]
  split <;> rfl

theorem sessions_deliver {session : String} (message : Message) :
    (server.deliver session message).sessions.get? id =
      if id = session then (server.sessions.get? id).map (fun s => s.hear message)
      else server.sessions.get? id :=
  Table.get?_modify ..

/-- Just the session that the registry names hears of a node. -/
theorem sessions_pushRole (node : String) (assignment : Assignment) :
    (server.pushRole node assignment).sessions.get? id =
      if server.senders.get? node = some id then
        (server.sessions.get? id).map (fun s => s.hear (Message.role id assignment))
      else server.sessions.get? id := by
  rw [pushRole]
  split
  · rename_i session hsession
    rw [sessions_deliver, hsession]
    by_cases heq : id = session
    · rw [if_pos heq, if_pos (congrArg some heq.symm), heq]
    · rw [if_neg heq, if_neg fun h => heq (Option.some.inj h).symm]
  · rename_i hnone
    rw [hnone, if_neg (Option.some_ne_none id).symm]

theorem standing?_pushRole (node : String) (assignment : Assignment) :
    (server.pushRole node assignment).standing? id =
      if server.senders.get? node = some id then
        (server.standing? id).map (fun s => s.hear (Message.role id assignment))
      else server.standing? id := by
  rw [standing?, sessions_pushRole, standing?]
  split
  · rw [Option.map_map, Option.map_map]
    exact Option.map_congr fun session _ => session.standing_hear _
  · rfl

theorem hub_pushRoles (changes : List (String × Assignment)) :
    (server.pushRoles changes).hub = server.hub := by
  induction changes generalizing server with
  | nil => rfl
  | cons change rest ih => rw [pushRoles_cons, ih, hub_pushRole]

/-- A session is told nothing if none of the changed nodes is its own. -/
theorem standing?_pushRoles_of_forall_ne {changes : List (String × Assignment)}
    (h : ∀ change ∈ changes, server.senders.get? change.1 ≠ some id) :
    (server.pushRoles changes).standing? id = server.standing? id := by
  induction changes generalizing server with
  | nil => rfl
  | cons change rest ih =>
    obtain ⟨hchange, hrest⟩ := List.forall_mem_cons.1 h
    rw [pushRoles_cons, ih, standing?_pushRole, if_neg hchange]
    intro other hother
    rw [senders_pushRole]
    exact hrest other hother

/-- A session is told the assignment of its node if just one node that changed is its own. -/
theorem standing?_pushRoles_of_mem {changes : List (String × Assignment)} {node : String}
    {assignment : Assignment} (hmem : (node, assignment) ∈ changes)
    (hsender : server.senders.get? node = some id)
    (honly : ∀ change ∈ changes, server.senders.get? change.1 = some id →
      change = (node, assignment)) :
    (server.pushRoles changes).standing? id =
      (server.standing? id).map (fun s => s.hear (Message.role id assignment)) := by
  induction changes generalizing server with
  | nil => exact absurd hmem List.not_mem_nil
  | cons change rest ih =>
    obtain ⟨hchange, hrest⟩ := List.forall_mem_cons.1 honly
    rw [pushRoles_cons]
    have hsenders : (server.pushRole change.1 change.2).senders = server.senders :=
      senders_pushRole change.1 change.2
    by_cases hlater : (node, assignment) ∈ rest
    · -- the same change may stand twice in the list, and then the session hears of it twice
      rw [ih hlater (by rw [hsenders]; exact hsender) (by rw [hsenders]; exact hrest),
        standing?_pushRole]
      split
      · rename_i hown
        rw [hchange hown, Option.map_map]
        exact Option.map_congr fun s _ => Standing.hear_hear
      · rfl
    · have hhead : change = (node, assignment) :=
        ((List.mem_cons.1 hmem).resolve_right hlater).symm
      rw [standing?_pushRoles_of_forall_ne, standing?_pushRole, hhead, if_pos hsender]
      intro other hother hown
      rw [hsenders] at hown
      rw [hrest other hother hown] at hother
      exact hlater hother

/-! ## Quiet operations -/

/-- Two servers with the same hub, the same registry and sessions of the same standing. -/
structure Quiet (before after : Server) : Prop where
  hub : after.hub = before.hub
  senders : after.senders = before.senders
  standing : ∀ id, after.standing? id = before.standing? id

theorem Quiet.refl (server : Server) : Quiet server server := ⟨rfl, rfl, fun _ => rfl⟩

theorem Quiet.trans {before between after : Server} (h : Quiet before between)
    (h' : Quiet between after) : Quiet before after :=
  ⟨h'.hub.trans h.hub, h'.senders.trans h.senders,
    fun id => (h'.standing id).trans (h.standing id)⟩

theorem quiet_move (state : SessionState) : Quiet server (server.move id state) :=
  ⟨rfl, rfl, fun _ => rfl⟩

theorem quiet_modifySession {f : Session → Session}
    (h : ∀ session, (f session).standing = session.standing) :
    Quiet server (server.modifySession id f) := by
  refine ⟨rfl, rfl, fun other => ?_⟩
  rw [standing?_modifySession (g := fun standing => standing) h, Option.map_id', ite_self]

theorem quiet_setLink (link : Link) : Quiet server (server.setLink id link) :=
  quiet_modifySession fun _ => rfl

theorem quiet_closeLink : Quiet server (server.closeLink id) :=
  quiet_modifySession fun _ => rfl

theorem quiet_closeLinks (ids : List String) : Quiet server (server.closeLinks ids) := by
  rw [closeLinks]
  induction ids generalizing server with
  | nil => exact .refl server
  | cons id rest ih => exact quiet_closeLink.trans ih

theorem quiet_deliver {message : Message} (h : message.type ≠ "role") :
    Quiet server (server.deliver id message) := by
  refine ⟨rfl, rfl, fun other => ?_⟩
  rw [standing?_deliver]
  split
  · cases server.standing? other with
    | none => rfl
    | some standing => exact congrArg some (Standing.hear_of_ne_role h)
  · rfl

theorem quiet_send {message : Message} (h : message.type ≠ "role") :
    Quiet server (server.send id message).server := by
  rw [send]
  split
  · exact quiet_deliver h
  · exact .refl server

theorem quiet_negotiationFails (failure : RelayError) :
    Quiet server (server.negotiationFails id failure).server :=
  quiet_move .failed

theorem quiet_handleOffer (payload : SdpPayload) :
    Quiet server (server.handleOffer id payload).server := by
  rw [handleOffer]
  have hmove : Quiet server (server.move id .negotiating) := quiet_move .negotiating
  refine hmove.trans ?_
  split
  · exact .refl _
  · split
    · exact (quiet_setLink _).trans (quiet_negotiationFails _)
    · split
      · exact (quiet_setLink _).trans (quiet_negotiationFails _)
      · exact (quiet_setLink _).trans (quiet_send (by simp [Message.answer]))

theorem quiet_handleAnswer (payload : SdpPayload) :
    Quiet server (server.handleAnswer id payload).server := by
  rw [handleAnswer]
  split
  · exact .refl _
  · split
    · exact (quiet_setLink _).trans (quiet_negotiationFails _)
    · rename_i link _
      have hlink : Quiet server (server.setLink id link) := quiet_setLink link
      have hsend : Quiet (server.setLink id link)
          ((server.setLink id link).send id (Message.connected id)).server :=
        quiet_send (by simp [Message.connected])
      rw [Outcome.andThen]
      split
      · exact (hlink.trans hsend).trans (quiet_move .connected)
      · exact hlink.trans hsend

end Server

end RelayMesh
