import RelayMesh.Proofs.Hub.Mending
import RelayMesh.Proofs.Room.Assigning
import RelayMesh.Proofs.Room.Duty

/-!
# What a pass reports

A pass over a room decides about one node after the other, and collects its
report from what the single decisions changed.  The rooms between the first
and the last one are seen by nobody, so the report is only useful if it is the
difference of these two.

* `Room.Reports` compares a list of changes with the room before and the room
  after, and does not mention the pass.  `reports_rebalance` holds because a
  decision touches the role and the set of its own node only.
* `Room.KeepsContent` is what no decision changes: who the nodes are, what they
  are able to do and what they reported, and what the streams carry.
-/

namespace RelayMesh

/-- What a stream carries, whoever relays it. -/
def Stream.content (stream : Stream) : String × MediaKind × PacketBuffer :=
  (stream.source, stream.media, stream.buffer)

namespace Stream

variable {stream : Stream} {node : String}

theorem content_withTarget : (stream.withTarget node).content = stream.content := by
  rw [withTarget]
  split <;> rfl

theorem content_withoutTarget : (stream.withoutTarget node).content = stream.content := rfl

end Stream

namespace Room

variable {α : Type} {room : Room α} {id : String} {node : Node α}

/-! ## What a pass keeps -/

/-- A room has the same nodes and streams as before.  A node may have another role and relay other
streams, and a stream may have other targets, but nothing else is new about them. -/
structure KeepsContent (before after : Room α) : Prop where
  keys : after.nodes.keys = before.nodes.keys
  node : ∀ {id was now}, before.nodes.get? id = some was → after.nodes.get? id = some now →
    now = { was with role := now.role, relaying := now.relaying }
  content : ∀ name, (after.streams.get? name).map Stream.content =
    (before.streams.get? name).map Stream.content

theorem content_assigned (kept : Assignment) (name : String) :
    ((room.assigned id node kept).streams.get? name).map Stream.content =
      (room.streams.get? name).map Stream.content := by
  rw [get?_streams_assigned, Option.map_map]
  refine Option.map_congr fun stream _ => ?_
  dsimp only [Function.comp]
  split
  · exact Stream.content_withTarget
  · exact Stream.content_withoutTarget

/-! ## Identifiers of an assignment -/

/-- The identifiers of offered streams are distinct. -/
theorem Offers.nodup_streamIds {kept : Assignment} (h : room.Offers id kept) :
    kept.streamIds.Nodup := by
  refine List.pairwise_map.2 (h.nodup.imp_of_mem ?_)
  intro a b ha hb hne heq
  exact hne (eq_of_mem_streamInfos (h.mem a ha) (h.mem b hb) heq)

/-! ## Reports -/

/-- A list of changes names the nodes that have changed between two states of a room, and says what
they hold afterwards. -/
structure Reports (before after : Room α) (changes : List (String × Assignment)) : Prop where
  /-- The nodes are named in increasing order, and so each of them once. -/
  ascending : (changes.map Prod.fst).Pairwise (· < ·)
  mem_iff : ∀ id, id ∈ changes.map Prod.fst ↔
    ∃ was now, before.nodes.get? id = some was ∧ after.nodes.get? id = some now ∧
      (now.role ≠ was.role ∨ now.relaying ≠ was.relaying)
  held : ∀ {id kept}, (id, kept) ∈ changes → ∃ now, after.nodes.get? id = some now ∧
    kept.role = now.role ∧ kept.streamIds.Perm now.relaying.toList ∧
      kept.SameAs (after.duty now)

variable [Scalar α] {policy : Policy α}

theorem content_rebalance (name : String) :
    ((room.rebalance policy).2.streams.get? name).map Stream.content =
      (room.streams.get? name).map Stream.content :=
  evaluateAll_induction
    (P := fun _ r => (r.streams.get? name).map Stream.content =
      (room.streams.get? name).map Stream.content)
    (fun _ _ _ _ _ hcontent => (content_assigned _ name).trans hcontent)
    (fun _ _ _ _ hcontent => hcontent) rfl

theorem keepsContent_rebalance (room : Room α) (policy : Policy α) :
    room.KeepsContent (room.rebalance policy).2 where
  keys := keys_rebalance
  node hwas hnow := by
    obtain ⟨kept, hfinal, -, -⟩ := rebalance_get? policy hwas
    rw [hfinal] at hnow
    rw [← Option.some.inj hnow]
    rfl
  content := content_rebalance

/-- A node is named in the report of a pass if the pass leaves it another role or other streams. -/
theorem mem_reported_iff :
    id ∈ room.reported policy ↔
      ∃ was now, room.nodes.get? id = some was ∧
        (room.rebalance policy).2.nodes.get? id = some now ∧
        (now.role ≠ was.role ∨ now.relaying ≠ was.relaying) := by
  constructor
  · intro hmem
    obtain ⟨⟨id, assignment⟩, hchange, rfl⟩ := List.mem_map.1 hmem
    obtain ⟨was, hwas⟩ := Table.mem_keys.1 (mem_of_mem_evaluateAll hchange)
    obtain ⟨kept, hfinal, -, hreports⟩ := rebalance_get? policy hwas
    have hdiffers := ((hreports assignment).1 hchange).2
    exact ⟨was, _, hwas, hfinal, (was.differsFrom_iff ..).1 hdiffers⟩
  · rintro ⟨was, now, hwas, hnow, hchanged⟩
    obtain ⟨kept, hfinal, -, hreports⟩ := rebalance_get? policy hwas
    rw [hfinal] at hnow
    rw [← Option.some.inj hnow] at hchanged
    have hchange := (hreports kept).2 ⟨rfl, (was.differsFrom_iff ..).2 hchanged⟩
    exact List.mem_map_of_mem hchange

theorem reports_rebalance (room : Room α) (policy : Policy α) :
    room.Reports (room.rebalance policy).2 (room.rebalance policy).1 where
  ascending := room.nodes.sorted_keys.sublist sublist_evaluateAll
  mem_iff _ := mem_reported_iff
  held {id assignment} hchange := by
    obtain ⟨was, hwas⟩ := Table.mem_keys.1 (mem_of_mem_evaluateAll hchange)
    obtain ⟨kept, hfinal, hoffers, hreports⟩ := rebalance_get? policy hwas
    obtain ⟨rfl, -⟩ := (hreports assignment).1 hchange
    refine ⟨_, hfinal, rfl, ?_, hoffers.sameAs_duty streamInfos_rebalance⟩
    exact (IdSet.toList_ofList_perm hoffers.nodup_streamIds).symm

end Room

/-! ## The pass of the hub -/

namespace Hub

variable {α : Type} [Scalar α]

/-- A pass over a room of the hub succeeds and touches no other room.  Its report names, in
increasing order and once each, the nodes whose role or set of relayed streams is not what it was
before the pass, each with the role and the streams that it has after the pass.  Nothing else
changes about a node, and nothing but the targets changes about a stream. -/
theorem rebalance_reports {hub : Hub α} {roomId : String} {room : Room α}
    (hroom : hub.rooms.get? roomId = some room) :
    ∃ changes after, hub.rebalance roomId = .ok (changes, hub.withRoom roomId after) ∧
      room.Reports after changes ∧ room.KeepsContent after :=
  ⟨_, _, rebalance_of_get? hroom, room.reports_rebalance hub.policy,
    room.keepsContent_rebalance hub.policy⟩

/-- The first node has what it should have, the second one lists a stream that is gone, and the third
one stands ready for the stream of the first. -/
def untidy : Room Float where
  nodes := Table.ofList [("a", relaying .receiver []), ("b", relaying .receiver ["gone"]),
    ("c", relaying .forwarder [])]
  streams := Table.ofList [("s", { source := "a", media := .audio })]

/-- The second node is named for its set alone, the third one for its role and its set. -/
theorem rebalance_reports_untidy :
    ((Hub.new Policy.standard).withRoom "r" untidy).rooms.get? "r" = some untidy ∧
      ∃ changes after,
        ((Hub.new Policy.standard).withRoom "r" untidy).rebalance "r" =
            .ok (changes, ((Hub.new Policy.standard).withRoom "r" untidy).withRoom "r" after) ∧
          changes = [("b", .receiver), ("c", ⟨.hybrid, [⟨"s", "a", .audio⟩]⟩)] ∧
          untidy.Reports after changes ∧ untidy.KeepsContent after := by
  have hroom :
      ((Hub.new Policy.standard).withRoom "r" untidy).rooms.get? "r" = some untidy :=
    get?_withRoom_self ..
  have hchanges : (untidy.rebalance Policy.standard).1 =
      [("b", .receiver), ("c", ⟨.hybrid, [⟨"s", "a", .audio⟩]⟩)] := by decide +kernel
  obtain ⟨changes, after, hrebalance, hreports, hkeeps⟩ := rebalance_reports hroom
  have hpass := (rebalance_of_get? hroom).symm.trans hrebalance
  have heq : (untidy.rebalance Policy.standard).1 = changes :=
    congrArg Prod.fst (Except.ok.inj hpass)
  exact ⟨hroom, changes, after, hrebalance, heq.symm.trans hchanges, hreports, hkeeps⟩

end Hub

end RelayMesh
