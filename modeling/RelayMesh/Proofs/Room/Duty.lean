import RelayMesh.Proofs.Room.Pass
import RelayMesh.Proofs.Room.Relation

/-!
# What a node is to do

The duty of a node is its role and the streams that it relays, with the source
and the media that they have in the room now.  An assignment is out of date
when it is no longer the same as the duty of its node.

* `rebalance_passed` says what a pass over the room does to a duty: a node that
  the pass reports has the reported assignment as its duty, and any other node
  keeps its duty.
* `sameAs_duty_withoutNode_iff` and `sameAs_duty_withFresh_iff` say when a
  departure or a new stream changes the duty of a node: exactly when the node
  relays a stream that goes.
-/

namespace RelayMesh

/-! ## The same assignment -/

namespace Assignment

/-- The same role and the same streams, in any order. -/
structure SameAs (a b : Assignment) : Prop where
  role : a.role = b.role
  streams : a.streams.Perm b.streams

variable {a b c : Assignment}

theorem SameAs.symm (h : a.SameAs b) : b.SameAs a := ⟨h.role.symm, h.streams.symm⟩

theorem SameAs.trans (hab : a.SameAs b) (hbc : b.SameAs c) : a.SameAs c :=
  ⟨hab.role.trans hbc.role, hab.streams.trans hbc.streams⟩

end Assignment

namespace Room

variable {α : Type} {room : Room α} {id : String} {node : Node α}

/-! ## Duties -/

/-- What a node is to do in the room: its role, and the streams of the room that it relays. -/
def duty (room : Room α) (node : Node α) : Assignment where
  role := node.role
  streams := room.streamInfos.filter (fun info => node.relays info.stream)

theorem mem_duty_streams {info : StreamInfo} :
    info ∈ (room.duty node).streams ↔
      (∃ stream, room.streams.get? info.stream = some stream ∧ stream.info info.stream = info) ∧
        node.relays info.stream = true := by
  rw [duty, List.mem_filter, mem_streamInfos]

theorem nodup_duty_streams (room : Room α) (node : Node α) : (room.duty node).streams.Nodup :=
  room.nodup_streamInfos.filter _

/-- An assignment is the same as a duty if it lists the streams of the duty, each once. -/
theorem sameAs_duty_iff {a : Assignment} :
    a.SameAs (room.duty node) ↔
      a.role = node.role ∧ a.streams.Nodup ∧
        ∀ info, info ∈ a.streams ↔ info ∈ (room.duty node).streams := by
  constructor
  · intro h
    exact ⟨h.role, h.streams.nodup_iff.2 (nodup_duty_streams room node),
      fun info => h.streams.mem_iff⟩
  · rintro ⟨hrole, hnodup, hmem⟩
    exact ⟨hrole, (List.perm_ext_iff_of_nodup hnodup (nodup_duty_streams room node)).2 hmem⟩

/-- The streams of a room are told apart by their identifiers. -/
theorem eq_of_mem_streamInfos {a b : StreamInfo} (ha : a ∈ room.streamInfos)
    (hb : b ∈ room.streamInfos) (h : a.stream = b.stream) : a = b := by
  obtain ⟨stream, hstream, hinfo⟩ := mem_streamInfos.1 ha
  obtain ⟨other, hother, hinfoOther⟩ := mem_streamInfos.1 hb
  rw [← h] at hother hinfoOther
  rw [← hinfo, ← hinfoOther, Option.some.inj (hstream.symm.trans hother)]

/-- A node that takes an assignment has it as its duty. -/
theorem Offers.sameAs_duty {kept : Assignment} (h : room.Offers id kept) {after : Room α}
    (hinfos : after.streamInfos = room.streamInfos) :
    kept.SameAs (after.duty (node.assign kept.role kept.streamIds)) := by
  refine sameAs_duty_iff.2 ⟨rfl, h.nodup, fun info => ?_⟩
  rw [duty, List.mem_filter, hinfos, Node.relays_assign]
  constructor
  · intro hinfo
    exact ⟨h.mem info hinfo, List.mem_map_of_mem hinfo⟩
  · rintro ⟨hinfo, hid⟩
    obtain ⟨listed, hlisted, heq⟩ := List.mem_map.1 hid
    rw [← eq_of_mem_streamInfos (h.mem listed hlisted) hinfo heq]
    exact hlisted

/-- A duty changes only with the role and the relays of the node and with what the room says about
the streams. -/
theorem duty_congr {after : Room α} {changed : Node α}
    (hinfos : after.streamInfos = room.streamInfos) (hrole : changed.role = node.role)
    (hrelaying : changed.relaying = node.relaying) : after.duty changed = room.duty node := by
  simp only [duty, Node.relays, hinfos, hrole, hrelaying]

/-! ## Departures and new streams -/

/-- A departure changes the duty of a node exactly when the node relays a stream of the one that
leaves. -/
theorem sameAs_duty_withoutNode_iff :
    (room.duty node).SameAs ((room.withoutNode id).duty (node.without (room.publishes id))) ↔
      ∀ stream, node.relays stream = true → room.publishes id stream = false := by
  constructor
  · intro h name hrelays
    refine Bool.eq_false_iff.2 fun hpublishes => ?_
    obtain ⟨stream, hstream, -⟩ := publishes_iff.1 hpublishes
    have hbefore : stream.info name ∈ (room.duty node).streams :=
      mem_duty_streams.2 ⟨⟨stream, hstream, rfl⟩, hrelays⟩
    have hafter := (mem_duty_streams.1 (h.streams.mem_iff.1 hbefore)).2
    have hstays := ((Node.relays_without _).1 hafter).2
    exact Bool.false_ne_true (hstays.symm.trans hpublishes)
  · intro h
    refine sameAs_duty_iff.2 ⟨rfl, nodup_duty_streams room node, fun info => ?_⟩
    rw [mem_duty_streams, mem_duty_streams, Node.relays_without]
    constructor
    · rintro ⟨⟨stream, hstream, hinfo⟩, hrelays⟩
      have hstays := h info.stream hrelays
      refine ⟨⟨stream.withoutTarget id, ?_, hinfo⟩, hrelays, hstays⟩
      have hsource : stream.source ≠ id := fun hown =>
        Bool.false_ne_true (hstays.symm.trans (publishes_iff.2 ⟨stream, hstream, hown⟩))
      rw [get?_streams_withoutNode, hstream]
      simp [hsource]
    · rintro ⟨⟨stream, hstream, hinfo⟩, hrelays, -⟩
      obtain ⟨before, hbefore, -, rfl⟩ := of_get?_streams_withoutNode hstream
      exact ⟨⟨before, hbefore, hinfo⟩, hrelays⟩

/-- A stream that is new to its source changes the duty of a node exactly when the node relays the
stream that is there under the same identifier. -/
theorem sameAs_duty_withFresh_iff (hwf : room.WellFormed) {other source : String}
    {media : MediaKind} (hnode : room.nodes.get? other = some node)
    (hnew : room.publishes source id = false) :
    (room.duty node).SameAs ((room.withFresh id source media).duty node) ↔
      node.relays id = false := by
  constructor
  · intro h
    refine Bool.eq_false_iff.2 fun hrelays => ?_
    obtain ⟨old, hold⟩ := Table.contains_iff.1 (hwf.relayed_mem hnode hrelays)
    have hbefore : old.info id ∈ (room.duty node).streams :=
      mem_duty_streams.2 ⟨⟨old, hold, rfl⟩, hrelays⟩
    obtain ⟨⟨stream, hstream, hinfo⟩, -⟩ := mem_duty_streams.1 (h.streams.mem_iff.1 hbefore)
    rw [get?_streams_withFresh] at hstream
    have hfresh : stream = { source, media } :=
      (Option.some.inj ((if_pos rfl).symm.trans hstream)).symm
    have hsource : source = old.source := by
      rw [hfresh] at hinfo
      exact congrArg StreamInfo.source hinfo
    have hpublishes := publishes_iff.2 ⟨old, hold, hsource.symm⟩
    exact Bool.false_ne_true (hnew.symm.trans hpublishes)
  · intro hrelays
    refine sameAs_duty_iff.2 ⟨rfl, nodup_duty_streams room node, fun info => ?_⟩
    rw [mem_duty_streams, mem_duty_streams]
    refine and_congr_left fun hinfo => ?_
    have hne : info.stream ≠ id := by
      intro heq
      rw [heq, hrelays] at hinfo
      exact Bool.false_ne_true hinfo
    rw [get?_streams_withFresh, if_neg hne]

/-! ## Passes -/

variable [Scalar α] {policy : Policy α}

/-- The nodes that a pass reports as changed. -/
def reported (room : Room α) (policy : Policy α) : List String :=
  (room.rebalance policy).1.map Prod.fst

/-- What a pass does to the duty of a node: it reports the new duty, or it leaves the duty. -/
inductive Passed (policy : Policy α) (room : Room α) (id : String) (before after : Assignment) :
    Prop where
  | told (kept : Assignment) (hkept : (id, kept) ∈ (room.rebalance policy).1)
      (honly : ∀ other, (id, other) ∈ (room.rebalance policy).1 → other = kept)
      (hsame : kept.SameAs after)
  | silent (hnot : id ∉ room.reported policy) (hsame : after = before)

theorem rebalance_passed (policy : Policy α) (hget : room.nodes.get? id = some node) :
    ∃ after, (room.rebalance policy).2.nodes.get? id = some after ∧
      after.session = node.session ∧
      Passed policy room id (room.duty node) ((room.rebalance policy).2.duty after) := by
  obtain ⟨kept, hfinal, hoffers, hreports⟩ := rebalance_get? policy hget
  refine ⟨_, hfinal, rfl, ?_⟩
  cases hdiffers : node.differsFrom kept.role kept.streamIds with
  | true =>
    refine .told kept ((hreports kept).2 ⟨rfl, hdiffers⟩) (fun other h => ?_) ?_
    · exact ((hreports other).1 h).1
    · exact hoffers.sameAs_duty streamInfos_rebalance
  | false =>
    refine .silent (fun hmem => ?_) ?_
    · obtain ⟨⟨other, assignment⟩, hchange, rfl⟩ := List.mem_map.1 hmem
      have htrue := ((hreports assignment).1 hchange).2
      exact Bool.false_ne_true (hdiffers.symm.trans htrue)
    · rw [Node.assign_of_not_differsFrom hdiffers]
      exact duty_congr streamInfos_rebalance rfl rfl

end Room

end RelayMesh
