import RelayMesh.Proofs.Server.Stages

/-!
# Starts and finishes

Which sessions are live and which are listed changes when sessions start and
finish, and at no other time.

* `SameRoll` relates two servers with the same live and the same listed
  sessions.  `sameRoll_handle` says that no message changes either of them, and
  `isLive_start` and `isLive_finish` what the start and the end of a session
  change.
* `enrolls_attend` puts this together: what an event of the server changes.
* `InSession` speaks of a run alone: a session has started on the way and not
  finished since.  `isLive_attendAll_iff` says that these sessions are the live
  ones.
-/

namespace RelayMesh

namespace Lifecycle

variable {lifecycle : Lifecycle} {id other : String} {state : SessionState}

/-- A session begins in the state `new`, and only there. -/
theorem follows_none_iff : state.follows none = true ↔ state = .new := by
  cases state <;> decide

theorem not_new_follows (current : SessionState) :
    SessionState.new.follows (some current) = false := by
  cases current <;> rfl

/-- A move to a later state lists no session. -/
theorem contains_move (h : state ≠ .new) :
    (lifecycle.move id state).states.contains other = lifecycle.states.contains other := by
  unfold move transition
  dsimp only
  split
  · rename_i hfollows
    have hlisted : lifecycle.states.contains id = true := by
      rw [Table.contains]
      by_contra hnone
      rw [Option.not_isSome_iff_eq_none] at hnone
      rw [hnone] at hfollows
      exact h (follows_none_iff.1 hfollows)
    rw [Table.insert_eq_modify hlisted, Table.contains_modify]
  · rfl

theorem contains_move_new :
    (lifecycle.move id .new).states.contains other =
      (decide (other = id) || lifecycle.states.contains other) := by
  unfold move transition
  dsimp only
  cases hcurrent : lifecycle.states.get? id with
  | none =>
    rw [if_pos (follows_none_iff.2 rfl), Table.contains_insert]
  | some current =>
    rw [not_new_follows, if_neg Bool.false_ne_true]
    by_cases h : other = id <;> simp [h, Table.contains, hcurrent]

end Lifecycle

namespace Server

variable {server before after : Server} {id other : String} {now : Instant}

/-! ## Servers with the same sessions -/

/-- Whether a session has a state. -/
def isListed (server : Server) (id : String) : Bool :=
  server.lifecycle.states.contains id

/-- The same sessions are live, and the same ones are listed. -/
structure SameRoll (before after : Server) : Prop where
  live : ∀ id, after.isLive id = before.isLive id
  listed : ∀ id, after.isListed id = before.isListed id

theorem SameRoll.refl (server : Server) : SameRoll server server :=
  ⟨fun _ => rfl, fun _ => rfl⟩

theorem SameRoll.trans {between : Server} (h : SameRoll before between)
    (h' : SameRoll between after) : SameRoll before after :=
  ⟨fun id => (h'.live id).trans (h.live id), fun id => (h'.listed id).trans (h.listed id)⟩

theorem sameRoll_modifySession (f : Session → Session) :
    SameRoll server (server.modifySession id f) where
  live _ := Table.contains_modify ..
  listed _ := rfl

theorem sameRoll_closeLinks (ids : List String) : SameRoll server (server.closeLinks ids) := by
  unfold closeLinks
  induction ids generalizing server with
  | nil => exact .refl server
  | cons id rest ih => exact (sameRoll_modifySession _).trans ih

theorem sameRoll_move {state : SessionState} (h : state ≠ .new) :
    SameRoll server (server.move id state) :=
  ⟨fun _ => rfl, fun _ => Lifecycle.contains_move h⟩

theorem stages_sameRoll : Stages SameRoll where
  refl := .refl
  trans := .trans
  hub _ _ := ⟨fun _ => rfl, fun _ => rfl⟩
  senders _ _ := ⟨fun _ => rfl, fun _ => rfl⟩
  move _ _ _ := sameRoll_move
  membership _ _ _ := sameRoll_modifySession _
  link _ _ := sameRoll_modifySession _
  message _ _ _ _ := sameRoll_modifySession _

theorem sameRoll_react (inbound : Inbound) :
    SameRoll server (server.react id now inbound).server := by
  by_cases hjoin : ∃ request, inbound = .join request
  · obtain ⟨request, rfl⟩ := hjoin
    have hadmitted : SameRoll (server.leaveRoom id)
        ((server.leaveRoom id).admitted (request.membership id) (request.arrival id now)) :=
      (stages_sameRoll.hub _ _).trans (sameRoll_closeLinks _)
    rw [react, handleJoin_eq]
    exact ((stages_sameRoll.leaveRoom id).trans hadmitted).trans stages_sameRoll.welcomed
  · exact stages_sameRoll.react fun request heq => hjoin ⟨request, heq⟩

/-- No message starts a session, ends one or lists one. -/
theorem sameRoll_handle (message : Message) :
    SameRoll server (server.handle id now message).server := by
  unfold handle
  split
  · exact .refl server
  · rename_i inbound _
    have hreact : SameRoll server (server.react id now inbound).server := sameRoll_react inbound
    dsimp only
    split
    · exact hreact
    · split
      · unfold send
        split
        · exact hreact.trans (sameRoll_modifySession _)
        · exact hreact
      · exact hreact

/-! ## Starts and ends -/

/-- A start that fails only lists the session, and one that succeeds opens it as well. -/
theorem start_cases (server : Server) (id : String) (listening : Bool) :
    (server.start id listening).failure.isSome = true ∧
        SameRoll (server.move id .new) (server.start id listening).server ∨
      (server.start id listening).failure.isSome = false ∧ ∃ link,
        SameRoll ((server.move id .new).opened id link) (server.start id listening).server := by
  unfold start
  dsimp only
  split
  · exact .inl ⟨rfl, sameRoll_move (by decide)⟩
  · rename_i link _
    split
    · have hinit : SameRoll ((server.move id .new).opened id link)
          (((server.move id .new).opened id link).deliver id (Message.init id)) :=
        sameRoll_modifySession _
      exact .inr ⟨rfl, link, hinit.trans (sameRoll_move (by decide))⟩
    · exact .inl ⟨rfl, .refl _⟩

theorem isListed_start (listening : Bool) :
    (server.start id listening).server.isListed other =
      (decide (other = id) || server.isListed other) := by
  have hnew : (server.move id .new).isListed other =
      (decide (other = id) || server.isListed other) := Lifecycle.contains_move_new
  rw [← hnew]
  obtain ⟨-, hsame⟩ | ⟨-, link, hsame⟩ := server.start_cases id listening
  · exact hsame.listed other
  · exact hsame.listed other

theorem isLive_opened (link : Link) :
    (server.opened id link).isLive other = (decide (other = id) || server.isLive other) :=
  Table.contains_insert ..

theorem isLive_start (listening : Bool) :
    (server.start id listening).server.isLive other =
      (decide (other = id) && !(server.start id listening).failure.isSome ||
        server.isLive other) := by
  obtain ⟨hfails, hsame⟩ | ⟨hsucceeds, link, hsame⟩ := server.start_cases id listening
  · rw [hsame.live, hfails]
    simp [isLive, move]
  · rw [hsame.live, hsucceeds, isLive_opened]
    simp [isLive, move]

/-- What is left of a session before its record and its state go. -/
theorem sameRoll_closed (server : Server) (id : String) :
    SameRoll server (((server.leaveRoom id).closeLink id).move id .closed) :=
  ((stages_sameRoll.leaveRoom id).trans (sameRoll_modifySession _)).trans
    (sameRoll_move (by decide))

theorem isListed_finish :
    (server.finish id).isListed other = (!decide (other = id) && server.isListed other) := by
  rw [← (server.sameRoll_closed id).listed]
  exact Table.contains_erase ..

theorem isLive_finish :
    (server.finish id).isLive other = (!decide (other = id) && server.isLive other) := by
  rw [← (server.sameRoll_closed id).live]
  exact Table.contains_erase ..

/-! ## Events -/

/-- What happens to a server: its sessions, the watch over the nodes, and peers that take no more
messages. -/
inductive ServerEvent where
  | session (event : SessionEvent)
  | watch (now : Instant)
  | hangUp (id : String)

/-- Handles an event.  A round of the watch that fails changes nothing. -/
def attend (server : Server) : ServerEvent → Server
  | .session event => server.step event
  | .watch now =>
    match server.watch now with
    | .ok after => after
    | .error _ => server
  | .hangUp id => server.stopListening id

/-- Handles events one after the other. -/
def attendAll (server : Server) (events : List ServerEvent) : Server :=
  events.foldl attend server

/-- The event starts a session, which is not live; `failed` says whether the start fails. -/
def Starts (server : Server) (event : ServerEvent) (id : String) (failed : Bool) : Prop :=
  ∃ listening, event = .session (.start id listening) ∧ server.isLive id = false ∧
    (server.start id listening).failure.isSome = failed

/-- The event finishes a session, which is live. -/
def Finishes (server : Server) (event : ServerEvent) (id : String) : Prop :=
  event = .session (.finish id) ∧ server.isLive id = true

theorem Starts.unique {event : ServerEvent} {failed failed' : Bool}
    (h : server.Starts event id failed) (h' : server.Starts event id failed') :
    failed = failed' := by
  obtain ⟨listening, rfl, -, hfailed⟩ := h
  obtain ⟨_, heq, -, hfailed'⟩ := h'
  cases heq
  exact hfailed.symm.trans hfailed'

/-- An event adds to the live and to the listed sessions those that it starts, and it takes away
those that it finishes. -/
structure Enrolls (server : Server) (event : ServerEvent) (after : Server) : Prop where
  listed : ∀ id, after.isListed id = true ↔ (∃ failed, server.Starts event id failed) ∨
    server.isListed id = true ∧ ¬server.Finishes event id
  live : ∀ id, after.isLive id = true ↔ server.Starts event id false ∨
    server.isLive id = true ∧ ¬server.Finishes event id

theorem SameRoll.enrolls {event : ServerEvent} (h : SameRoll server after)
    (hstart : ∀ id failed, ¬server.Starts event id failed)
    (hfinish : ∀ id, ¬server.Finishes event id) : server.Enrolls event after where
  listed id := by
    rw [h.listed, or_iff_right (not_exists.2 (hstart id)), and_iff_left (hfinish id)]
  live id := by
    rw [h.live, or_iff_right (hstart id false), and_iff_left (hfinish id)]

theorem SameRoll.enrolls_of_ne {event : ServerEvent} (h : SameRoll server after)
    (hstart : ∀ id listening, event ≠ .session (.start id listening))
    (hfinish : ∀ id, event ≠ .session (.finish id)) : server.Enrolls event after := by
  refine h.enrolls ?_ fun id hfinishes => hfinish id hfinishes.1
  rintro id failed ⟨listening, heq, -⟩
  exact hstart id listening heq

theorem enrolls_start (hgone : server.isLive id = false) (listening : Bool) :
    server.Enrolls (.session (.start id listening)) (server.start id listening).server := by
  have hfinish : ∀ other, ¬server.Finishes (.session (.start id listening)) other :=
    fun other h => nomatch h.1
  have hstarts : ∀ other failed, server.Starts (.session (.start id listening)) other failed ↔
      other = id ∧ (server.start id listening).failure.isSome = failed := by
    intro other failed
    constructor
    · rintro ⟨_, heq, -, hfailed⟩
      cases heq
      exact ⟨rfl, hfailed⟩
    · rintro ⟨rfl, hfailed⟩
      exact ⟨listening, rfl, hgone, hfailed⟩
  constructor
  · intro other
    rw [isListed_start, and_iff_left (hfinish other)]
    simp [hstarts]
  · intro other
    rw [isLive_start, and_iff_left (hfinish other), hstarts]
    simp

theorem enrolls_finish (hlive : server.isLive id = true) :
    server.Enrolls (.session (.finish id)) (server.finish id) := by
  have hstart : ∀ other failed, ¬server.Starts (.session (.finish id)) other failed := by
    rintro other failed ⟨_, heq, -⟩
    cases heq
  have hfinishes : ∀ other, server.Finishes (.session (.finish id)) other ↔ other = id := by
    intro other
    constructor
    · rintro ⟨heq, -⟩
      cases heq
      rfl
    · rintro rfl
      exact ⟨rfl, hlive⟩
  constructor
  · intro other
    rw [isListed_finish, or_iff_right (not_exists.2 (hstart other)), hfinishes]
    simp [and_comm]
  · intro other
    rw [isLive_finish, or_iff_right (hstart other false), hfinishes]
    simp [and_comm]

theorem sameRoll_watch : SameRoll server (server.attend (.watch now)) := by
  rw [attend, watch]
  cases server.hub.watch now with
  | error e => exact .refl server
  | ok eviction => exact (stages_sameRoll.hub server eviction.hub).trans (sameRoll_closeLinks _)

theorem enrolls_attend (server : Server) (event : ServerEvent) :
    server.Enrolls event (server.attend event) := by
  cases event with
  | watch now => exact sameRoll_watch.enrolls_of_ne (by simp) (by simp)
  | hangUp id => exact (sameRoll_modifySession _).enrolls_of_ne (by simp) (by simp)
  | session event =>
    rw [attend]
    cases event with
    | start id listening =>
      rw [step]
      split
      · rename_i hlive
        refine (SameRoll.refl server).enrolls ?_ (by rintro _ ⟨⟨⟩, _⟩)
        rintro other failed ⟨_, ⟨⟩, hgone, -⟩
        rw [hlive] at hgone
        cases hgone
      · rename_i hgone
        exact enrolls_start (Bool.not_eq_true _ ▸ hgone) listening
    | message id now message =>
      have hsame : SameRoll server (server.step (.message id now message)) := by
        rw [step]
        split
        · exact sameRoll_handle message
        · exact .refl server
      exact hsame.enrolls_of_ne (by simp) (by simp)
    | finish id =>
      rw [step]
      split
      · rename_i hlive
        exact enrolls_finish hlive
      · rename_i hgone
        refine (SameRoll.refl server).enrolls (by rintro _ _ ⟨_, ⟨⟩, _⟩) ?_
        rintro other ⟨⟨⟩, hlive⟩
        exact hgone hlive

/-! ## Sessions of a run -/

/-- The event starts a session, and the start succeeds. -/
def Opens (server : Server) (event : ServerEvent) (id : String) : Prop :=
  ∃ listening, event = .session (.start id listening) ∧
    (server.start id listening).failure.isSome = false

/-- In the run of a server a session has started, and it has not finished since. -/
def InSession (server : Server) (events : List ServerEvent) (id : String) : Prop :=
  ∃ done event later, events = done ++ event :: later ∧ (server.attendAll done).Opens event id ∧
    .session (.finish id) ∉ later

theorem isLive_attend_iff (server : Server) (event : ServerEvent) (id : String) :
    (server.attend event).isLive id = true ↔
      server.Opens event id ∨ server.isLive id = true ∧ event ≠ .session (.finish id) := by
  rw [(server.enrolls_attend event).live]
  constructor
  · rintro (⟨listening, hevent, -, hopens⟩ | ⟨hlive, hkept⟩)
    · exact .inl ⟨listening, hevent, hopens⟩
    · exact .inr ⟨hlive, fun hevent => hkept ⟨hevent, hlive⟩⟩
  · rintro (⟨listening, hevent, hopens⟩ | ⟨hlive, hother⟩)
    -- the start of a session that is live already is ignored
    · cases hlive : server.isLive id with
      | false => exact .inl ⟨listening, hevent, hlive, hopens⟩
      | true =>
        subst hevent
        exact .inr ⟨rfl, fun hfinishes => nomatch hfinishes.1⟩
    · exact .inr ⟨hlive, fun hfinishes => hother hfinishes.1⟩

theorem not_inSession_nil : ¬server.InSession [] id := by
  rintro ⟨done, event, later, hevents, -⟩
  exact List.append_ne_nil_of_right_ne_nil done (List.cons_ne_nil event later) hevents.symm

theorem inSession_concat_iff {events : List ServerEvent} {event : ServerEvent} :
    server.InSession (events ++ [event]) id ↔
      (server.attendAll events).Opens event id ∨
        server.InSession events id ∧ event ≠ .session (.finish id) := by
  constructor
  · rintro ⟨done, opening, later, hevents, hopens, hstays⟩
    obtain rfl | ⟨later, last, rfl⟩ := List.eq_nil_or_concat later
    · obtain ⟨rfl, heq⟩ := List.append_inj' hevents rfl
      rw [List.singleton_inj.1 heq]
      exact .inl hopens
    · have hsplit : events ++ [event] = (done ++ opening :: later) ++ [last] := by
        simpa using hevents
      obtain ⟨rfl, heq⟩ := List.append_inj' hsplit rfl
      obtain rfl := List.singleton_inj.1 heq
      rw [List.concat_eq_append, List.mem_append, List.mem_singleton, not_or] at hstays
      exact .inr ⟨⟨done, opening, later, rfl, hopens, hstays.1⟩, Ne.symm hstays.2⟩
  · rintro (hopens | ⟨⟨done, opening, later, rfl, hopens, hstays⟩, hother⟩)
    · exact ⟨events, event, [], rfl, hopens, List.not_mem_nil⟩
    · refine ⟨done, opening, later ++ [event], by simp, hopens, ?_⟩
      rw [List.mem_append, List.mem_singleton, not_or]
      exact ⟨hstays, Ne.symm hother⟩

/-- The live sessions are those that have started on the way and not finished since. -/
theorem isLive_attendAll_iff (hnone : ∀ id, server.isLive id = false) (events : List ServerEvent)
    (id : String) : (server.attendAll events).isLive id = true ↔ server.InSession events id := by
  induction events using List.reverseRecOn with
  | nil => exact iff_of_false (hnone id ▸ Bool.false_ne_true) not_inSession_nil
  | append_singleton events event ih =>
    rw [inSession_concat_iff, ← ih, attendAll, List.foldl_concat]
    exact isLive_attend_iff _ event id

end Server

end RelayMesh
