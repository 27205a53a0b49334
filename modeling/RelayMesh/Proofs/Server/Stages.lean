import RelayMesh.Proofs.Server.Run

/-!
# What handlers are made of

A handler changes a server in stages: it puts another hub or another registry
in place, moves a session to a state that no session begins in, sets a
membership, replaces the link of a session by one that is closed or open as the
old one, and hands messages to sessions.  A relation
between servers that has these stages, and can be composed, relates a server
to what the handlers make of it.  `Server.Stages` says so of a relation, and
the lemmas below are the handlers.

The arrival of a node also closes a link, so joins are in two parts:
`Stages.leaveRoom` is for what happens before, and `Stages.welcomed` for what
happens after.
-/

namespace RelayMesh

namespace Link

variable {link after : Link} {engine : MediaEngine}

theorem closed_setRemote {payload : String} {result : Except RelayError DescriptionKind}
    (h : link.setRemote engine payload = (result, after)) : after.closed = link.closed := by
  have hafter : (link.setRemote engine payload).2 = after := congrArg Prod.snd h
  rw [← hafter, setRemote]
  split <;> rfl

theorem closed_describe {connection : Connection} {kind : DescriptionKind} {text : String} :
    (link.describe engine connection kind text).2.closed = link.closed := by
  unfold describe
  dsimp only
  split
  · rfl
  · split <;> rfl

theorem closed_createAnswer {result : Except RelayError LocalDescription}
    (h : link.createAnswer engine = (result, after)) : after.closed = link.closed := by
  have hafter : (link.createAnswer engine).2 = after := congrArg Prod.snd h
  rw [← hafter, createAnswer]
  split
  · rfl
  · split
    · rfl
    · rename_i text connection _
      have hdescribe : (link.describe engine connection .answer text).2.closed = link.closed :=
        closed_describe
      split
      · rename_i made described heq
        rw [heq] at hdescribe
        exact hdescribe
      · exact hdescribe

end Link

namespace Server

variable {server : Server} {id : String} {m : Membership} {now : Instant}

/-- A relation between servers that the stages of the handlers are in. -/
structure Stages (R : Server → Server → Prop) : Prop where
  refl : ∀ server, R server server
  trans : ∀ {before between after}, R before between → R between after → R before after
  hub : ∀ server hub, R server { server with hub }
  senders : ∀ server senders, R server { server with senders }
  move : ∀ server id {state}, state ≠ SessionState.new → R server (server.move id state)
  membership : ∀ server id membership, R server (server.setMembership id membership)
  link : ∀ {server id session link}, server.sessions.get? id = some session →
    link.closed = session.link.closed → R server (server.setLink id link)
  message : ∀ server id {message}, message.type ≠ "error" → R server (server.deliver id message)

namespace Stages

variable {R : Server → Server → Prop} (hR : Stages R)

include hR

theorem send {message : Message} (h : message.type ≠ "error") :
    R server (server.send id message).server := by
  unfold Server.send
  split
  · exact hR.message server id h
  · exact hR.refl server

theorem pushRoles (changes : List (String × Assignment)) : R server (server.pushRoles changes) := by
  induction changes generalizing server with
  | nil => exact hR.refl server
  | cons change rest ih =>
    rw [pushRoles_cons]
    refine hR.trans ?_ ih
    unfold pushRole
    split
    · exact hR.message server _ (by simp [Message.role])
    · exact hR.refl server

theorem rebalance (roomId : String) : R server (server.rebalance roomId) := by
  unfold Server.rebalance
  split
  · rename_i changes hub _
    exact hR.trans (hR.hub server hub) (hR.pushRoles changes)
  · exact hR.refl server

theorem removeSender (node : String) : R server (server.removeSender node id) := by
  unfold Server.removeSender
  split
  · exact hR.senders server _
  · exact hR.refl server

theorem leaveRoom (id : String) : R server (server.leaveRoom id) := by
  unfold Server.leaveRoom
  split
  · exact hR.refl server
  · rename_i roomId node _
    have hleft : R server ((server.setMembership id none).removeSender node id) :=
      hR.trans (hR.membership server id none) (hR.removeSender node)
    dsimp only
    split
    · rename_i hub _
      exact hR.trans (hR.trans hleft (hR.hub _ hub)) (hR.rebalance roomId)
    · exact hleft

theorem andThen {outcome : Outcome} {next : Server → Outcome} (h : R server outcome.server)
    (hnext : ∀ between, R between (next between).server) :
    R server (outcome.andThen next).server := by
  unfold Outcome.andThen
  split
  · exact hR.trans h (hnext outcome.server)
  · exact h

theorem handleOffer (payload : SdpPayload) : R server (server.handleOffer id payload).server := by
  have hmove : R server (server.move id .negotiating) := hR.move server id nofun
  unfold Server.handleOffer
  dsimp only
  split
  · exact hmove
  · rename_i session hsession
    have hlink : ∀ link, link.closed = session.link.closed →
        R server ((server.move id .negotiating).setLink id link) :=
      fun link hclosed => hR.trans hmove (hR.link hsession hclosed)
    split
    · rename_i hremote
      exact hR.trans (hlink _ (Link.closed_setRemote hremote)) (hR.move _ id nofun)
    · rename_i link hremote
      have hset := Link.closed_setRemote hremote
      split
      · rename_i hanswer
        exact hR.trans (hlink _ ((Link.closed_createAnswer hanswer).trans hset))
          (hR.move _ id nofun)
      · rename_i hanswer
        exact hR.trans (hlink _ ((Link.closed_createAnswer hanswer).trans hset))
          (hR.send (by simp [Message.answer]))

theorem handleAnswer (payload : SdpPayload) : R server (server.handleAnswer id payload).server := by
  unfold Server.handleAnswer
  split
  · exact hR.refl server
  · rename_i session hsession
    split
    · rename_i hremote
      exact hR.trans (hR.link hsession (Link.closed_setRemote hremote)) (hR.move _ id nofun)
    · rename_i hremote
      refine hR.andThen ?_ fun between => hR.move between id nofun
      exact hR.trans (hR.link hsession (Link.closed_setRemote hremote))
        (hR.send (by simp [Message.connected]))

theorem decideFor : R server (server.decideFor id m).server := by
  unfold Server.decideFor
  split
  · exact hR.refl server
  · rename_i assignment hub _
    exact hR.trans (hR.hub server hub) (hR.send (by simp [Message.role]))

/-- What is left of a join once the node is in its room. -/
theorem welcomed {node : Node Float} :
    R (server.admitted m node) ((server.joined id m node).decideFor id m).server := by
  have hjoined : R (server.admitted m node) (server.joined id m node) :=
    hR.trans (hR.senders _ _) (hR.membership _ id _)
  exact hR.trans hjoined hR.decideFor

theorem handlePublish (request : PublishRequest) :
    R server (server.handlePublish id request).server := by
  unfold Server.handlePublish
  split
  · exact hR.refl server
  · split
    · exact hR.refl server
    · rename_i hub _
      exact hR.trans (hR.hub server hub) (hR.rebalance _)

theorem handleMetrics (load : Load Float) :
    R server (server.handleMetrics id load now).server := by
  unfold Server.handleMetrics
  split
  · exact hR.refl server
  · split
    · exact hR.refl server
    · rename_i assignment hub _
      refine hR.andThen ?_ fun between => hR.rebalance _
      exact hR.trans (hR.hub server hub) (hR.send (by simp [Message.role]))

theorem react {inbound : Inbound} (h : ∀ request, inbound ≠ .join request) :
    R server (server.react id now inbound).server := by
  cases inbound with
  | offer payload =>
    rw [Server.react]
    exact hR.handleOffer payload
  | answer payload =>
    rw [Server.react]
    exact hR.handleAnswer payload
  | connected => exact hR.move server id (by decide)
  | join request => exact absurd rfl (h request)
  | publish request => exact hR.handlePublish request
  | metrics load => exact hR.handleMetrics load
  | leave => exact hR.leaveRoom id
  | init => exact hR.refl server
  | unknown type => exact hR.refl server

end Stages

end Server

end RelayMesh
