import RelayMesh.Proofs.Hub.Run
import RelayMesh.Proofs.Run

/-!
# The relay relation along a run of the hub

Every room that a run of the hub reaches is well-formed (`run_wellFormed`).

The two copies of the relation do not always agree.  `Request.replacesRelay`
names the two requests that leave only one of them changed:

* a node joins in place of a node that relays streams, and stays a target of
  these streams although it relays nothing;
* a node publishes a stream of another node that has targets, and the new
  stream has none although the targets go on relaying it.

`agrees_step_iff` shows that no other request breaks the agreement, and
`agrees_along_run_iff` that the two copies agree throughout a run exactly when
the run makes no such request.
-/

namespace RelayMesh

namespace Room

variable {α : Type} {room : Room α}

/-- Whether a node of the room relays streams. -/
def relaysAny (room : Room α) (id : String) : Bool :=
  (room.nodes.get? id).any (fun node => !node.relaying.isEmpty)

/-- Whether a node of the room that does not publish a stream would take it over from another node
while it has targets. -/
def takesOverRelayed (room : Room α) (node stream : String) : Bool :=
  room.nodes.contains node &&
    (room.streams.get? stream).any (fun old => old.source ≠ node && !old.targets.isEmpty)

theorem relaysAny_eq_false_iff {id : String} :
    room.relaysAny id = false ↔ ∀ old, room.nodes.get? id = some old → old.relaying = ∅ := by
  simp [relaysAny, Option.any_eq_false, Table.isEmpty_iff]

theorem takesOverRelayed_eq_false_iff {node stream : String}
    (hnode : room.nodes.contains node = true) (hnew : room.publishes node stream = false) :
    room.takesOverRelayed node stream = false ↔
      ∀ old, room.streams.get? stream = some old → old.targets = [] := by
  rw [takesOverRelayed, hnode, Bool.true_and, Option.any_eq_false]
  refine forall₂_congr fun old hold => ?_
  have hforeign : old.source ≠ node := fun hsource =>
    Bool.false_ne_true (hnew.symm.trans (publishes_iff.2 ⟨old, hold, hsource⟩))
  simp [hforeign]

theorem takesOverRelayed_of_publishes {node stream : String}
    (h : room.nodes.contains node = true → room.publishes node stream = true) :
    room.takesOverRelayed node stream = false := by
  rw [takesOverRelayed, Bool.and_eq_false_imp]
  intro hnode
  obtain ⟨old, hold, hsource⟩ := publishes_iff.1 (h hnode)
  simp [hold, hsource]

variable [Scalar α]

theorem upkept_wellFormed : Upkept (WellFormed (α := α)) where
  withoutNode id h := h.withoutNode id
  modifyNode hrole hrelaying h := h.modifyNode hrole hrelaying
  decided hget h := h.decided hget

theorem upkept_agrees : Upkept (Agrees (α := α)) where
  withoutNode id h := h.withoutNode id
  modifyNode hrole hrelaying h := h.modifyNode hrole hrelaying
  decided _ h := h.assigned _

end Room

namespace Hub

variable {α : Type} {hub : Hub α} {P : Room α → Prop}

theorem Everywhere.getD (h : hub.Everywhere P) (hempty : P ∅) (id : String) :
    P ((hub.rooms.get? id).getD ∅) := by
  cases hget : hub.rooms.get? id with
  | none => exact hempty
  | some room => exact h id room hget

variable [Scalar α]

/-! ## Well-formed rooms -/

theorem relaying_arriving (user : String) (capabilities : Capabilities α)
    (session link : Option String) (now : Instant) :
    (arriving user capabilities session link now).relaying = ∅ := rfl

theorem wellFormed_step (h : hub.Everywhere Room.WellFormed) (request : Request α) :
    (hub.step request).Everywhere Room.WellFormed := by
  cases request with
  | createRoom room => exact h.createRoom Room.wellFormed_empty room
  | join room node user capabilities session link now =>
    refine (everywhere_join_iff h Room.wellFormed_empty).2 ?_
    exact (h.getD Room.wellFormed_empty room).addNode (relaying_arriving ..)
  | publish room node stream media =>
    refine (everywhere_publish_iff h).2 fun found hfound hnode _ => ?_
    exact (h room found hfound).withFresh hnode
  | _ => exact h.step_of_isUpkeep Room.upkept_wellFormed rfl

/-- Every room that a hub without rooms reaches by any requests is well-formed: the sources and
the targets of its streams are nodes of the room, a stream has each target once, is not a target's
own, and is marked as forwarded exactly when it has targets, and a node relays only streams of the
room, and only as a hybrid. -/
theorem run_wellFormed (policy : Policy α) (requests : List (Request α)) :
    ((new policy).run requests).Everywhere Room.WellFormed :=
  List.foldlRecOn requests step (everywhere_new _ policy) fun _ h request _ =>
    wellFormed_step h request

/-! ## Agreement -/

/-- Whether a request puts a node in the place of one that relays, or a stream of another node in
the place of one that is relayed. -/
def Request.replacesRelay (hub : Hub α) : Request α → Bool
  | .join room node .. => (hub.rooms.get? room).any (fun r => r.relaysAny node)
  | .publish room node stream _ =>
    (hub.rooms.get? room).any (fun r => r.takesOverRelayed node stream)
  | _ => false

/-- The two copies of the relation agree after a request exactly when the request replaces no
relay. -/
theorem agrees_step_iff (hwf : hub.Everywhere Room.WellFormed)
    (h : hub.Everywhere Room.Agrees) (request : Request α) :
    (hub.step request).Everywhere Room.Agrees ↔ ¬request.replacesRelay hub = true := by
  cases request with
  | createRoom room =>
    exact iff_of_true (h.createRoom Room.agrees_empty room) Bool.false_ne_true
  | join room node user capabilities session link now =>
    rw [step, everywhere_join_iff h Room.agrees_empty,
      Room.agrees_addNode_iff (hwf.getD Room.wellFormed_empty room)
        (h.getD Room.agrees_empty room) (relaying_arriving ..),
      ← Room.relaysAny_eq_false_iff, Request.replacesRelay, Bool.not_eq_true]
    cases hub.rooms.get? room <;> rfl
  | publish room node stream media =>
    rw [step, everywhere_publish_iff h, Request.replacesRelay, Bool.not_eq_true,
      Option.any_eq_false]
    refine forall₂_congr fun found hfound => ?_
    by_cases hfresh : found.nodes.contains node = true ∧ found.publishes node stream = false
    · have hiff : (found.withFresh stream node media).Agrees ↔ _ :=
        Room.agrees_withFresh_iff (hwf room found hfound) (h room found hfound)
      rw [Room.takesOverRelayed_eq_false_iff hfresh.1 hfresh.2, ← hiff]
      exact ⟨fun hall => hall hfresh.1 hfresh.2, fun hafter _ _ => hafter⟩
    · refine iff_of_true (fun hnode hnew => absurd ⟨hnode, hnew⟩ hfresh) ?_
      refine Room.takesOverRelayed_of_publishes fun hnode => ?_
      exact Bool.of_not_eq_false fun hnew => hfresh ⟨hnode, hnew⟩
  | _ => exact iff_of_true (h.step_of_isUpkeep Room.upkept_agrees rfl) Bool.false_ne_true

/-- The two copies of the relation agree in every state of a run, from a hub without rooms, exactly
when the run makes no request that replaces a relay. -/
theorem agrees_along_run_iff (policy : Policy α) (requests : List (Request α)) :
    (∀ done, done <+: requests → ((new policy).run done).Everywhere Room.Agrees) ↔
      ∀ done request, done ++ [request] <+: requests →
        ¬request.replacesRelay ((new policy).run done) = true :=
  Run.always_iff (fun hub request => request.replacesRelay hub = true)
    (everywhere_new Room.WellFormed policy) (everywhere_new Room.Agrees policy)
    fun _ request _ hwf => ⟨wellFormed_step hwf request, fun h => agrees_step_iff hwf h request⟩

/-- The node `a` relays the stream `s` of the node `b`, and `c` has no part in it. -/
def relayed : List (Request Float) :=
  [.join "r" "a" "a" ⟨true, 0, 3⟩ none none 0, .join "r" "b" "b" ⟨false, 0, 3⟩ none none 0,
    .join "r" "c" "c" ⟨false, 0, 3⟩ none none 0, .publish "r" "b" "s" .audio, .evaluate "r" "a"]

/-- The copies come apart when `a` joins again, and when `c` publishes the stream in turn. -/
theorem copies_apart_after_replacement :
    (¬∀ done, done <+: relayed ++ [.join "r" "a" "a" ⟨true, 0, 3⟩ none none 0] →
        ((new Policy.standard).run done).Everywhere Room.Agrees) ∧
      ¬∀ done, done <+: relayed ++ [.publish "r" "c" "s" .video] →
        ((new Policy.standard).run done).Everywhere Room.Agrees := by
  constructor
  · intro hagrees
    refine (agrees_along_run_iff _ _).1 hagrees relayed _ List.prefix_rfl ?_
    decide +kernel
  · intro hagrees
    refine (agrees_along_run_iff _ _).1 hagrees relayed _ List.prefix_rfl ?_
    decide +kernel

end Hub

end RelayMesh
