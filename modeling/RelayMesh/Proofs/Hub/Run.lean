import RelayMesh.Hub.Health
import RelayMesh.Proofs.Room.Pass
import RelayMesh.Proofs.Room.Relation

/-!
# Runs of the hub

A hub is asked for one operation after the other.  `Hub.Request` names the
operations, `Hub.step` carries one of them out, and `Hub.run` is a whole run.

Most operations only take nodes out of a room, change a node without touching
its role and its relays, or decide about a node.  A relation between hubs that
allows these three changes allows every such operation (`Hub.Upkeep`), and one
that allows nodes to leave allows the operations that do no more
(`Hub.Thinning`).

A property of rooms is lifted to hubs by `Hub.Everywhere`.  `Room.Upkept` says
that a property survives the three changes, and then it survives every such
operation (`Everywhere.step_of_isUpkeep`).  What is left are the operations
that put something new into a room: `everywhere_join_iff` and
`everywhere_publish_iff` say what they ask of the property.
-/

namespace RelayMesh

/-! ## Requests -/

namespace Hub

/-- What a hub may be asked for. -/
inductive Request (α : Type) where
  | createRoom (room : String)
  | removeRoom (room : String)
  | join (room node user : String) (capabilities : Capabilities α)
      (session link : Option String) (now : Instant)
  | leave (room node : String)
  | leaveSession (room node session : String)
  | attach (room node link : String)
  | publish (room node stream : String) (media : MediaKind)
  | report (room node : String) (load : Load α) (now : Instant)
  | evaluate (room node : String)
  | rebalance (room : String)
  | evict (now : Instant)

variable {α : Type}

/-- The hub after an operation that may be refused; a refusal changes nothing. -/
def settle {ε β : Type} (hub : Hub α) : Except ε (β × Hub α) → Hub α
  | .ok (_, after) => after
  | .error _ => hub

/-- A node that arrives, as a request describes it. -/
def arriving (user : String) (capabilities : Capabilities α) (session link : Option String)
    (now : Instant) [Scalar α] : Node α :=
  { Node.new user capabilities now with session, link }

variable [Scalar α]

/-- Carries out a request. -/
def step (hub : Hub α) : Request α → Hub α
  | .createRoom room => hub.createRoom room
  | .removeRoom room => hub.settle (hub.removeRoom room)
  | .join room node user capabilities session link now =>
    (hub.join room node (arriving user capabilities session link now)).2
  | .leave room node => hub.settle (hub.leave room node)
  | .leaveSession room node session => (hub.leaveSession room node session).2
  | .attach room node link => (hub.attach room node link).2
  | .publish room node stream media => hub.settle (hub.publish room node stream media)
  | .report room node load now => hub.settle (hub.report room node load now)
  | .evaluate room node => hub.settle (hub.evaluate room node)
  | .rebalance room => hub.settle (hub.rebalance room)
  | .evict now =>
    match hub.evict now with
    | .ok eviction => eviction.hub
    | .error _ => hub

/-- Carries out requests one after the other. -/
def run (hub : Hub α) (requests : List (Request α)) : Hub α :=
  requests.foldl step hub

end Hub

/-! ## Properties of rooms that upkeep preserves -/

namespace Room

variable {α : Type} [Scalar α]

/-- A property of rooms that holds again after a node of the room has left, has changed without a
change of its role and its relays, or was decided about. -/
structure Upkept (P : Room α → Prop) : Prop where
  withoutNode : ∀ {room} (id), P room → P (room.withoutNode id)
  modifyNode : ∀ {room id f}, (∀ node, (f node).role = node.role) →
    (∀ node, (f node).relaying = node.relaying) → P room →
    P { room with nodes := room.nodes.modify id f }
  decided : ∀ {room policy id node}, room.nodes.get? id = some node → P room →
    P (room.decided policy id node)

variable {P : Room α → Prop} {room : Room α} {policy : Policy α}

theorem Upkept.rebalance (hP : Upkept P) (h : P room) : P (room.rebalance policy).2 :=
  evaluateAll_induction (P := fun _ r => P r) (fun _ _ _ _ hget => hP.decided hget)
    (fun _ _ _ _ hroom => hroom) h

end Room

/-! ## Properties of every room of a hub -/

namespace Hub

variable {α : Type} {P : Room α → Prop} {hub after : Hub α} {roomId nodeId : String}
  {room : Room α}

/-- Every room of a hub has a property. -/
def Everywhere (P : Room α → Prop) (hub : Hub α) : Prop :=
  ∀ id room, hub.rooms.get? id = some room → P room

theorem everywhere_new (P : Room α → Prop) (policy : Policy α) : (new policy).Everywhere P :=
  fun _ _ h => nomatch h

theorem get?_withRoom (other : String) :
    (hub.withRoom roomId room).rooms.get? other =
      if other = roomId then some room else hub.rooms.get? other :=
  Table.get?_insert ..

theorem get?_withRoom_self (hub : Hub α) (roomId : String) (room : Room α) :
    (hub.withRoom roomId room).rooms.get? roomId = some room := by
  rw [get?_withRoom, if_pos rfl]

theorem everywhere_withRoom_iff (h : hub.Everywhere P) :
    (hub.withRoom roomId room).Everywhere P ↔ P room := by
  constructor
  · intro hafter
    exact hafter roomId room (get?_withRoom_self ..)
  · intro hroom other otherRoom hother
    rw [get?_withRoom] at hother
    split at hother
    · rw [← Option.some.inj hother]
      exact hroom
    · exact h other otherRoom hother

theorem Everywhere.withRoom (h : hub.Everywhere P) (hroom : P room) (id : String) :
    (hub.withRoom id room).Everywhere P :=
  (everywhere_withRoom_iff h).2 hroom

/-- A room that is gone is no obstacle. -/
theorem Everywhere.erase (h : hub.Everywhere P) (id : String) :
    Everywhere P { hub with rooms := hub.rooms.erase id } := by
  intro other otherRoom hother
  rw [Table.get?_erase] at hother
  split at hother
  · exact nomatch hother
  · exact h other otherRoom hother

theorem Everywhere.dropIfEmpty (h : hub.Everywhere P) (id : String) :
    (hub.dropIfEmpty id).Everywhere P := by
  rw [Hub.dropIfEmpty]
  split
  · exact h.erase id
  · exact h

theorem Everywhere.createRoom (h : hub.Everywhere P) (hempty : P ∅) (id : String) :
    (hub.createRoom id).Everywhere P := by
  rw [Hub.createRoom]
  split
  · exact h
  · exact (everywhere_withRoom_iff h).2 hempty

/-- A refusal changes nothing. -/
theorem settle_of {Q : Hub α → Prop} {ε β : Type} {result : Except ε (β × Hub α)} (hsame : Q hub)
    (hafter : ∀ b after, result = .ok (b, after) → Q after) : Q (hub.settle result) := by
  cases result with
  | error e => exact hsame
  | ok result => exact hafter result.1 result.2 rfl

theorem Everywhere.settle (h : hub.Everywhere P) {ε β : Type} {result : Except ε (β × Hub α)}
    (hafter : ∀ b after, result = .ok (b, after) → after.Everywhere P) :
    (hub.settle result).Everywhere P :=
  settle_of h hafter

theorem getD_createRoom :
    ((hub.createRoom roomId).rooms.get? roomId).getD ∅ = (hub.rooms.get? roomId).getD ∅ := by
  rw [createRoom]
  split
  · rfl
  · rename_i hnot
    rw [Table.contains, Bool.not_eq_true, Option.isSome_eq_false_iff,
      Option.isNone_iff_eq_none] at hnot
    rw [get?_withRoom_self, hnot]
    rfl

theorem room_eq_ok (h : hub.room roomId = .ok room) : hub.rooms.get? roomId = some room := by
  rw [Hub.room] at h
  split at h
  · rename_i found hfound
    rw [hfound, Except.ok.inj h]
  · exact nomatch h

theorem removeRoom_eq_ok (h : hub.removeRoom roomId = .ok (room, after)) :
    after = { hub with rooms := hub.rooms.erase roomId } := by
  rw [removeRoom] at h
  cases hroom : hub.room roomId with
  | error e =>
    rw [hroom] at h
    exact nomatch h
  | ok found =>
    rw [hroom] at h
    exact (Prod.mk.inj (Except.ok.inj h)).2.symm

/-! ## Arrivals and new streams -/

/-- A property holds after an arrival if it holds of the room with the node in it. -/
theorem everywhere_join_iff (h : hub.Everywhere P) (hempty : P ∅) {node : Node α} :
    (hub.join roomId nodeId node).2.Everywhere P ↔
      P (((hub.rooms.get? roomId).getD ∅).addNode nodeId node) := by
  rw [← getD_createRoom]
  exact everywhere_withRoom_iff (h.createRoom hempty roomId)

theorem room_of_get? (h : hub.rooms.get? roomId = some room) : hub.room roomId = .ok room := by
  rw [Hub.room, h]

theorem withRoom_of_get? (h : hub.rooms.get? roomId = some room) :
    hub.withRoom roomId room = hub := by
  rw [withRoom, Table.insert_of_get? h]

theorem withRoom_withRoom (hub : Hub α) (first second : Room α) :
    (hub.withRoom roomId first).withRoom roomId second = hub.withRoom roomId second := by
  have hrooms : (hub.rooms.insert roomId first).insert roomId second =
      hub.rooms.insert roomId second := by
    apply Table.ext_get?
    intro other
    simp only [Table.get?_insert]
    split <;> rfl
  simp only [withRoom, hrooms]

theorem publish_of_fresh (hroom : hub.rooms.get? roomId = some room) {stream : String}
    (hnode : room.nodes.contains nodeId = true) (hnew : room.publishes nodeId stream = false)
    (media : MediaKind) :
    hub.publish roomId nodeId stream media =
      .ok ({ source := nodeId, media },
        hub.withRoom roomId (room.withFresh stream nodeId media)) := by
  rw [publish, room_of_get? hroom]
  dsimp only
  rw [Room.addStream_of_fresh hnode hnew]
  rfl

theorem publish_of_publishes (hroom : hub.rooms.get? roomId = some room) {stream : String}
    (hnode : room.nodes.contains nodeId = true) (hold : room.publishes nodeId stream = true)
    (media : MediaKind) :
    ∃ found, hub.publish roomId nodeId stream media = .ok (found, hub) := by
  obtain ⟨found, hadd⟩ := Room.addStream_of_publishes hnode hold media
  refine ⟨found, ?_⟩
  rw [publish, room_of_get? hroom]
  dsimp only
  rw [hadd, Except.map, withRoom_of_get? hroom]

theorem publish_of_absent (h : ∀ room, hub.rooms.get? roomId = some room →
    room.nodes.contains nodeId = false) (stream : String) (media : MediaKind) :
    ∃ e, hub.publish roomId nodeId stream media = .error e := by
  cases hget : hub.rooms.get? roomId with
  | none =>
    rw [publish, Hub.room, hget]
    exact ⟨_, rfl⟩
  | some room =>
    rw [publish, room_of_get? hget]
    dsimp only
    rw [Room.addStream_of_absent (h room hget)]
    exact ⟨_, rfl⟩

/-- Publishing puts a new stream into the room, or it changes nothing: the room or the node is not
there, or the node publishes the stream already. -/
theorem settle_publish_cases (hub : Hub α) (roomId nodeId stream : String) (media : MediaKind) :
    (∃ room, hub.rooms.get? roomId = some room ∧ room.nodes.contains nodeId = true ∧
        room.publishes nodeId stream = false ∧
        hub.settle (hub.publish roomId nodeId stream media) =
          hub.withRoom roomId (room.withFresh stream nodeId media)) ∨
      hub.settle (hub.publish roomId nodeId stream media) = hub ∧
        ∀ room, hub.rooms.get? roomId = some room → room.nodes.contains nodeId = true →
          room.publishes nodeId stream = true := by
  by_cases hpresent : ∃ room, hub.rooms.get? roomId = some room ∧
      room.nodes.contains nodeId = true
  · obtain ⟨room, hroom, hnode⟩ := hpresent
    cases hpublishes : room.publishes nodeId stream with
    | false =>
      left
      refine ⟨room, hroom, hnode, hpublishes, ?_⟩
      rw [publish_of_fresh hroom hnode hpublishes, settle]
    | true =>
      right
      obtain ⟨found, hsame⟩ := publish_of_publishes hroom hnode hpublishes media
      rw [hsame, settle]
      refine ⟨rfl, fun other hother _ => ?_⟩
      rw [hroom] at hother
      rw [← Option.some.inj hother, hpublishes]
  · right
    obtain ⟨e, hrefused⟩ := publish_of_absent
      (fun room hroom => Bool.eq_false_iff.2 fun hnode => hpresent ⟨room, hroom, hnode⟩)
      stream media
    rw [hrefused, settle]
    exact ⟨rfl, fun room hroom hnode => absurd ⟨room, hroom, hnode⟩ hpresent⟩

/-- A property holds after a stream was published if it holds of the room with the new stream,
should the stream be new to its source. -/
theorem everywhere_publish_iff (h : hub.Everywhere P) {stream : String} {media : MediaKind} :
    (hub.settle (hub.publish roomId nodeId stream media)).Everywhere P ↔
      ∀ room, hub.rooms.get? roomId = some room → room.nodes.contains nodeId = true →
        room.publishes nodeId stream = false → P (room.withFresh stream nodeId media) := by
  rcases settle_publish_cases hub roomId nodeId stream media with
    ⟨room, hroom, hnode, hnew, heq⟩ | ⟨heq, hold⟩
  · rw [heq, everywhere_withRoom_iff h]
    refine ⟨fun hafter other hother _ _ => ?_, fun hall => hall room hroom hnode hnew⟩
    rw [hroom] at hother
    rw [← Option.some.inj hother]
    exact hafter
  · rw [heq]
    refine ⟨fun _ room hroom hnode hnew => ?_, fun _ => h⟩
    rw [hold room hroom hnode] at hnew
    exact absurd hnew.symm Bool.false_ne_true

/-! ## Departures -/

/-- A departure that is not refused takes out a node that was there, and gives its link back. -/
theorem leave_eq_ok {link : Option String} (h : hub.leave roomId nodeId = .ok (link, after)) :
    ∃ room node, hub.rooms.get? roomId = some room ∧ room.nodes.get? nodeId = some node ∧
      node.link = link ∧
      (hub.withRoom roomId (room.withoutNode nodeId)).dropIfEmpty roomId = after := by
  rw [leave] at h
  split at h
  · exact nomatch h
  · rename_i room hroom
    split at h
    · exact nomatch h
    · rename_i node rest hremove
      obtain ⟨hlink, hafter⟩ := Prod.mk.inj (Except.ok.inj h)
      obtain ⟨hnode, -, hrest⟩ := Room.removeNodeIf_eq_some.1 hremove
      rw [← hrest] at hafter
      exact ⟨room, node, room_eq_ok hroom, hnode, hlink, hafter⟩

/-- A relation between a hub and what becomes of it that lets nodes leave. -/
structure Thinning (R : Hub α → Hub α → Prop) : Prop where
  refl : ∀ hub, R hub hub
  trans : ∀ {before between after}, R before between → R between after → R before after
  departed : ∀ {hub roomId room} (nodeId), hub.rooms.get? roomId = some room →
    R hub ((hub.withRoom roomId (room.withoutNode nodeId)).dropIfEmpty roomId)

namespace Thinning

variable {R : Hub α → Hub α → Prop} (hR : Thinning R)

include hR

theorem leave {link : Option String} (hleave : hub.leave roomId nodeId = .ok (link, after)) :
    R hub after := by
  obtain ⟨room, node, hroom, -, -, rfl⟩ := leave_eq_ok hleave
  exact hR.departed nodeId hroom

theorem leaveSession (session : String) : R hub (hub.leaveSession roomId nodeId session).2 := by
  rw [Hub.leaveSession]
  split
  · exact hR.refl hub
  · rename_i node rest hremove
    obtain ⟨room, hroom, hremove⟩ := Option.bind_eq_some_iff.1 hremove
    obtain ⟨-, -, rfl⟩ := Room.removeNodeIf_eq_some.1 hremove
    exact hR.departed nodeId hroom

/-- One node after the other leaves, so the induction is over the nodes that are still to leave. -/
theorem leaveAll (nodes : List (String × String)) : R hub (hub.leaveAll nodes).2 := by
  rw [Hub.leaveAll]
  generalize ([] : List String) = links
  induction nodes generalizing hub links with
  | nil => exact hR.refl hub
  | cons head rest ih =>
    rw [List.foldl_cons]
    dsimp only
    split
    · rename_i link after hleave
      exact hR.trans (hR.leave hleave) (ih _)
    · exact ih _

theorem evict {now : Instant} {eviction : Eviction α} (hevict : hub.evict now = .ok eviction) :
    R hub eviction.hub := by
  rw [Hub.evict] at hevict
  cases hcutoff : hub.cutoff now with
  | error e =>
    rw [hcutoff] at hevict
    exact nomatch hevict
  | ok cutoff =>
    rw [hcutoff] at hevict
    cases cutoff with
    | none =>
      rw [← Except.ok.inj hevict]
      exact hR.refl hub
    | some cutoff =>
      rw [← Except.ok.inj hevict]
      exact hR.leaveAll _

end Thinning

/-! ## Decisions -/

variable [Scalar α]

theorem rebalance_of_get? (hroom : hub.rooms.get? roomId = some room) :
    hub.rebalance roomId =
      .ok ((room.rebalance hub.policy).1, hub.withRoom roomId (room.rebalance hub.policy).2) := by
  rw [rebalance, room_of_get? hroom]
  rfl

theorem rebalance_of_get?_eq_none (hroom : hub.rooms.get? roomId = none) :
    hub.rebalance roomId = .error (.roomNotFound roomId) := by
  rw [rebalance, Hub.room, hroom]
  rfl

/-- A decision that is not refused is about a node that is there, and it is carried out. -/
theorem evaluate_eq_ok {kept : Assignment} (h : hub.evaluate roomId nodeId = .ok (kept, after)) :
    ∃ room node, hub.rooms.get? roomId = some room ∧ room.nodes.get? nodeId = some node ∧
      room.decision hub.policy nodeId node = kept ∧
      hub.withRoom roomId (room.decided hub.policy nodeId node) = after := by
  rw [evaluate] at h
  split at h
  · exact nomatch h
  · rename_i room hroom
    cases hnode : room.nodes.get? nodeId with
    | none =>
      rw [Room.evaluate_of_get?_eq_none hnode] at h
      exact nomatch h
    | some node =>
      rw [Room.evaluate_of_get? hnode] at h
      obtain ⟨hkept, hafter⟩ := Prod.mk.inj (Except.ok.inj h)
      exact ⟨room, node, room_eq_ok hroom, hnode, hkept, hafter⟩

/-- A pass that is not refused is over a room that is there. -/
theorem rebalance_eq_ok {changes : List (String × Assignment)}
    (h : hub.rebalance roomId = .ok (changes, after)) :
    ∃ room, hub.rooms.get? roomId = some room ∧ (room.rebalance hub.policy).1 = changes ∧
      hub.withRoom roomId (room.rebalance hub.policy).2 = after := by
  cases hroom : hub.rooms.get? roomId with
  | none =>
    rw [rebalance_of_get?_eq_none hroom] at h
    exact nomatch h
  | some room =>
    rw [rebalance_of_get? hroom] at h
    obtain ⟨hchanges, hafter⟩ := Prod.mk.inj (Except.ok.inj h)
    exact ⟨room, rfl, hchanges, hafter⟩

/-! ## Upkeep -/

/-- A relation between a hub and what becomes of it that lets a node leave, report and be decided
about. -/
structure Upkeep (R : Hub α → Hub α → Prop) : Prop where
  refl : ∀ hub, R hub hub
  trans : ∀ {before between after}, R before between → R between after → R before after
  departed : ∀ {hub roomId room} (nodeId), hub.rooms.get? roomId = some room →
    R hub ((hub.withRoom roomId (room.withoutNode nodeId)).dropIfEmpty roomId)
  reported : ∀ {hub roomId room} (nodeId load now), hub.rooms.get? roomId = some room →
    R hub (hub.withRoom roomId
      { room with nodes := room.nodes.modify nodeId (fun node => node.report load now) })
  decided : ∀ {hub roomId room nodeId node}, hub.rooms.get? roomId = some room →
    room.nodes.get? nodeId = some node →
    R hub (hub.withRoom roomId (room.decided hub.policy nodeId node))

namespace Upkeep

variable {R : Hub α → Hub α → Prop} (hR : Upkeep R)

include hR

theorem thinning : Thinning R :=
  ⟨hR.refl, hR.trans, hR.departed⟩

theorem evaluate {kept : Assignment} (hevaluate : hub.evaluate roomId nodeId = .ok (kept, after)) :
    R hub after := by
  obtain ⟨room, node, hroom, hnode, -, rfl⟩ := evaluate_eq_ok hevaluate
  exact hR.decided hroom hnode

theorem report {load : Load α} {now : Instant} {kept : Assignment}
    (hreport : hub.report roomId nodeId load now = .ok (kept, after)) : R hub after := by
  rw [Hub.report] at hreport
  split at hreport
  · exact nomatch hreport
  · rename_i room hroom
    rw [Room.report] at hreport
    cases hpresent : room.nodes.contains nodeId with
    | false =>
      rw [hpresent] at hreport
      exact nomatch hreport
    | true =>
      rw [hpresent] at hreport
      exact hR.trans (hR.reported nodeId load now (room_eq_ok hroom)) (hR.evaluate hreport)

/-- A pass is one decision after the other. -/
theorem rebalance {changes : List (String × Assignment)}
    (hrebalance : hub.rebalance roomId = .ok (changes, after)) : R hub after := by
  obtain ⟨room, hroom, -, rfl⟩ := rebalance_eq_ok hrebalance
  refine Room.evaluateAll_induction (P := fun _ r => R hub (hub.withRoom roomId r)) ?_ ?_ ?_
  · intro id rest r node hnode hpassed
    have hdecided := hR.trans hpassed (hR.decided (get?_withRoom_self ..) hnode)
    rw [withRoom_withRoom] at hdecided
    exact hdecided
  · intro id rest r hnode hpassed
    exact hpassed
  · rw [withRoom_of_get? hroom]
    exact hR.refl hub

theorem rebalanceAll (rooms : List String) : R hub (hub.rebalanceAll rooms) := by
  rw [Hub.rebalanceAll]
  induction rooms generalizing hub with
  | nil => exact hR.refl hub
  | cons head rest ih =>
    rw [List.foldl_cons]
    refine hR.trans ?_ ih
    split
    · rename_i hrebalance
      exact hR.rebalance hrebalance
    · exact hR.refl hub

/-- A round of the watch is an eviction, and then a pass over each room that lost a node. -/
theorem watch {now : Instant} {eviction : Eviction α} (hwatch : hub.watch now = .ok eviction) :
    R hub eviction.hub := by
  rw [Hub.watch] at hwatch
  cases hevict : hub.evict now with
  | error e =>
    rw [hevict] at hwatch
    exact nomatch hwatch
  | ok evicted =>
    rw [hevict] at hwatch
    rw [← Except.ok.inj hwatch]
    exact hR.trans (hR.thinning.evict hevict) (hR.rebalanceAll _)

end Upkeep

/-- What survives the upkeep of a room survives upkeep in every room. -/
theorem upkeep_everywhere (hP : Room.Upkept P) :
    Upkeep (fun before after : Hub α => before.Everywhere P → after.Everywhere P) where
  refl _ h := h
  trans h h' hbefore := h' (h hbefore)
  departed nodeId hroom h :=
    (h.withRoom (hP.withoutNode nodeId (h _ _ hroom)) _).dropIfEmpty _
  reported {_ roomId room} nodeId load now hroom h := by
    have hkept : P { room with
        nodes := room.nodes.modify nodeId (fun node => node.report load now) } :=
      hP.modifyNode (fun _ => rfl) (fun _ => rfl) (h roomId room hroom)
    exact h.withRoom hkept roomId
  decided hroom hnode h := h.withRoom (hP.decided hnode (h _ _ hroom)) _

theorem Everywhere.attach (hP : Room.Upkept P) (h : hub.Everywhere P) (link : String) :
    (hub.attach roomId nodeId link).2.Everywhere P := by
  rw [Hub.attach]
  split
  · exact h
  · rename_i room hroom
    have hold := h roomId room (Option.filter_eq_some_iff.1 hroom).1
    have hkept : P { room with
        nodes := room.nodes.modify nodeId (fun node => { node with link := some link }) } :=
      hP.modifyNode (fun _ => rfl) (fun _ => rfl) hold
    exact h.withRoom hkept roomId

/-! ## Steps -/

/-- Whether a request neither creates a room nor puts a node or a stream into one. -/
def Request.isUpkeep : Request α → Bool
  | .createRoom .. | .join .. | .publish .. => false
  | _ => true

/-- What survives upkeep survives every request that puts nothing new into a room. -/
theorem Everywhere.step_of_isUpkeep (hP : Room.Upkept P) (h : hub.Everywhere P)
    {request : Request α} (hupkeep : request.isUpkeep = true) :
    (hub.step request).Everywhere P := by
  have hR := upkeep_everywhere hP
  cases request with
  | createRoom => exact absurd hupkeep Bool.false_ne_true
  | join => exact absurd hupkeep Bool.false_ne_true
  | publish => exact absurd hupkeep Bool.false_ne_true
  | removeRoom room =>
    refine h.settle fun removed after hremove => ?_
    rw [removeRoom_eq_ok hremove]
    exact h.erase room
  | leave room node => exact h.settle fun _ _ hleave => hR.thinning.leave hleave h
  | leaveSession room node session => exact hR.thinning.leaveSession session h
  | attach room node link => exact h.attach hP link
  | report room node load now => exact h.settle fun _ _ hreport => hR.report hreport h
  | evaluate room node => exact h.settle fun _ _ hevaluate => hR.evaluate hevaluate h
  | rebalance room => exact h.settle fun _ _ hrebalance => hR.rebalance hrebalance h
  | evict now =>
    rw [step]
    split
    · rename_i eviction hevict
      exact hR.thinning.evict hevict h
    · exact h

/-! ## The policy -/

omit [Scalar α] in
theorem policy_dropIfEmpty (hub : Hub α) (roomId : String) :
    (hub.dropIfEmpty roomId).policy = hub.policy := by
  rw [dropIfEmpty]
  split <;> rfl

omit [Scalar α] in
theorem policy_createRoom (hub : Hub α) (roomId : String) :
    (hub.createRoom roomId).policy = hub.policy := by
  rw [createRoom]
  split <;> rfl

theorem upkeep_policy : Upkeep (fun before after : Hub α => after.policy = before.policy) where
  refl _ := rfl
  trans h h' := h'.trans h
  departed _ _ := policy_dropIfEmpty ..
  reported _ _ _ _ := rfl
  decided _ _ := rfl

/-- No request changes the policy. -/
theorem policy_step (hub : Hub α) (request : Request α) :
    (hub.step request).policy = hub.policy := by
  have hsettle {ε β : Type} {result : Except ε (β × Hub α)}
      (hafter : ∀ b after, result = .ok (b, after) → after.policy = hub.policy) :
      (hub.settle result).policy = hub.policy :=
    settle_of (Q := fun after => after.policy = hub.policy) rfl hafter
  cases request with
  | createRoom room => exact policy_createRoom hub room
  | removeRoom room => exact hsettle fun _ _ hremove => by rw [removeRoom_eq_ok hremove]
  | join room node user capabilities session link now => exact policy_createRoom hub room
  | leave room node => exact hsettle fun _ _ hleave => upkeep_policy.thinning.leave hleave
  | leaveSession room node session => exact upkeep_policy.thinning.leaveSession session
  | attach room node link =>
    rw [step, attach]
    split <;> rfl
  | publish room node stream media =>
    rcases settle_publish_cases hub room node stream media with ⟨_, -, -, -, heq⟩ | ⟨heq, -⟩
    · rw [step, heq]
      rfl
    · rw [step, heq]
  | report room node load now => exact hsettle fun _ _ hreport => upkeep_policy.report hreport
  | evaluate room node => exact hsettle fun _ _ hevaluate => upkeep_policy.evaluate hevaluate
  | rebalance room => exact hsettle fun _ _ hpass => upkeep_policy.rebalance hpass
  | evict now =>
    rw [step]
    split
    · rename_i eviction hevict
      exact upkeep_policy.thinning.evict hevict
    · rfl

theorem policy_run (hub : Hub α) (requests : List (Request α)) :
    (hub.run requests).policy = hub.policy :=
  List.foldlRecOn (motive := fun after => after.policy = hub.policy) requests step rfl
    fun after h request _ => (policy_step after request).trans h

end Hub

end RelayMesh
