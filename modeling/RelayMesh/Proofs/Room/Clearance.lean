import RelayMesh.Proofs.Room.Departure

/-!
# Rooms that some nodes have left

Nodes that leave a room one after the other leave it in the same state as if
they had left together: a stream goes with its source, whoever left before,
and a target goes when it leaves itself.

* `Stream.Cleared` and `Room.Cleared` describe the room after the departure of
  any set of nodes.  For one node this is `Room.Departed`.
* `Cleared.departed` is the step, a departure more, and `cleared_withoutNodes`
  is the run.
* `Cleared.congr` says that in a well-formed room it only matters which of its
  nodes are in the set.
-/

namespace RelayMesh

/-! ## Streams -/

namespace Stream

/-- A stream before and after some nodes left its room. -/
structure Cleared (gone : String → Bool) (before after : Stream) : Prop where
  /-- The other targets stay, in their order. -/
  targets : after.targets = before.targets.filter (fun target => !gone target)
  /-- The mark stays as long as there are targets. -/
  forwarding_iff : after.forwarding = true ↔ before.forwarding = true ∧ after.targets ≠ []
  source : after.source = before.source
  media : after.media = before.media
  buffer : after.buffer = before.buffer

variable {gone : String → Bool} {node : String} {before between after stream : Stream}

theorem cleared_none (hmark : stream.forwarding = true → stream.targets ≠ []) :
    Cleared (fun _ => false) stream stream where
  targets := by simp
  forwarding_iff := ⟨fun hforwarding => ⟨hforwarding, hmark hforwarding⟩, And.left⟩
  source := rfl
  media := rfl
  buffer := rfl

theorem Cleared.losesTarget (h : Cleared gone before between)
    (hloses : LosesTarget node between after) :
    Cleared (fun target => gone target || decide (target = node)) before after where
  targets := by
    rw [hloses.targets, h.targets, List.filter_filter]
    refine List.filter_congr fun target _ => ?_
    cases gone target <;> simp
  forwarding_iff := by
    rw [hloses.forwarding_iff, h.forwarding_iff]
    have hrest : after.targets ≠ [] → between.targets ≠ [] := by
      intro hafter hnil
      rw [hloses.targets, hnil] at hafter
      exact hafter rfl
    exact ⟨fun h => ⟨h.1.1, h.2⟩, fun h => ⟨⟨h.1, hrest h.2⟩, h.2⟩⟩
  source := hloses.source.trans h.source
  media := hloses.media.trans h.media
  buffer := hloses.buffer.trans h.buffer

end Stream

/-! ## Rooms -/

namespace Room

variable {α : Type} {gone : String → Bool} {id : String} {room before between after : Room α}

/-- Whether a stream goes with some nodes, because one of them publishes it. -/
def takenAlong (room : Room α) (gone : String → Bool) (name : String) : Bool :=
  (room.streams.get? name).any (fun stream => gone stream.source)

/-- A room before and after some nodes left it. -/
structure Cleared (gone : String → Bool) (before after : Room α) : Prop where
  /-- The other nodes stay, and nobody comes. -/
  contains_node : ∀ id, after.nodes.contains id = true ↔
    before.nodes.contains id = true ∧ gone id = false
  /-- The streams of the other nodes stay, and none comes. -/
  contains_stream : ∀ name, after.streams.contains name = true ↔
    before.streams.contains name = true ∧ before.takenAlong gone name = false
  /-- The other nodes relay what they did, apart from the streams that are gone. -/
  relays_iff : ∀ {id was now}, before.nodes.get? id = some was → after.nodes.get? id = some now →
    ∀ name, now.relays name = true ↔
      was.relays name = true ∧ before.takenAlong gone name = false
  /-- Nothing but the relaying set of another node changes. -/
  same_node : ∀ {id was now}, before.nodes.get? id = some was → after.nodes.get? id = some now →
    now = { was with relaying := now.relaying }
  stream : ∀ {name was now}, before.streams.get? name = some was →
    after.streams.get? name = some now → Stream.Cleared gone was now

/-- Where nobody leaves, nothing changes. -/
theorem cleared_none (hmarks : room.MarksTargets) : Cleared (fun _ => false) room room where
  contains_node id := by simp
  contains_stream name := by simp [takenAlong]
  relays_iff hwas hnow name := by
    rw [hwas] at hnow
    rw [Option.some.inj hnow]
    simp [takenAlong]
  same_node hwas hnow := by
    rw [hwas] at hnow
    rw [Option.some.inj hnow]
  stream hwas hnow := by
    rw [hwas] at hnow
    rw [← Option.some.inj hnow]
    exact Stream.cleared_none (hmarks hwas)

/-- A stream that was not taken along before goes with its source. -/
theorem Cleared.takenAlong_iff (h : Cleared gone before between) (name : String) :
    before.takenAlong (fun other => gone other || decide (other = id)) name = false ↔
      before.takenAlong gone name = false ∧ between.publishes id name = false := by
  cases hwas : before.streams.get? name with
  | none =>
    have hnone : between.streams.get? name = none := by
      rw [← Option.not_isSome_iff_eq_none]
      intro hsome
      have hbefore := ((h.contains_stream name).1 hsome).1
      rw [Table.contains, hwas] at hbefore
      cases hbefore
    simp [takenAlong, publishes, hwas, hnone]
  | some was =>
    cases hgone : gone was.source with
    | true => simp [takenAlong, hwas, hgone]
    | false =>
      have hstays : between.streams.contains name = true := by
        rw [h.contains_stream, Table.contains, takenAlong, hwas]
        simp [hgone]
      obtain ⟨now, hnow⟩ := Table.contains_iff.1 hstays
      have hsource := (h.stream hwas hnow).source
      simp [takenAlong, publishes, hwas, hnow, hgone, hsource]

/-- The step: one more node leaves. -/
theorem Cleared.departed (h : Cleared gone before between) (hdeparted : between.Departed id after) :
    Cleared (fun other => gone other || decide (other = id)) before after where
  contains_node other := by
    rw [hdeparted.contains_node, h.contains_node]
    simp [and_assoc]
  contains_stream name := by
    rw [hdeparted.contains_stream, h.contains_stream, h.takenAlong_iff, and_assoc]
  relays_iff {other was now} hwas hnow name := by
    have hstays := ((hdeparted.contains_node other).1 (Table.contains_iff.2 ⟨now, hnow⟩)).1
    obtain ⟨mid, hmid⟩ := Table.contains_iff.1 hstays
    rw [hdeparted.relays_iff hmid hnow, h.relays_iff hwas hmid, h.takenAlong_iff, and_assoc]
  same_node {other was now} hwas hnow := by
    have hstays := ((hdeparted.contains_node other).1 (Table.contains_iff.2 ⟨now, hnow⟩)).1
    obtain ⟨mid, hmid⟩ := Table.contains_iff.1 hstays
    have hfirst := h.same_node hwas hmid
    have hsecond := hdeparted.same_node hmid hnow
    rw [hfirst] at hsecond
    exact hsecond
  stream {name was now} hwas hnow := by
    have hstays := ((hdeparted.contains_stream name).1 (Table.contains_iff.2 ⟨now, hnow⟩)).1
    obtain ⟨mid, hmid⟩ := Table.contains_iff.1 hstays
    exact (h.stream hwas hmid).losesTarget (hdeparted.losesTarget hmid hnow)

/-- The room without some nodes, which leave one after the other. -/
def withoutNodes (room : Room α) (ids : List String) : Room α :=
  ids.foldl withoutNode room

/-- The run: the nodes of a list leave. -/
theorem cleared_withoutNodes (hmarks : room.MarksTargets) (ids : List String) :
    Cleared (fun id => decide (id ∈ ids)) room (room.withoutNodes ids) := by
  induction ids using List.reverseRecOn with
  | nil =>
    have hnone : (fun id => decide (id ∈ ([] : List String))) = fun _ => false := by simp
    rw [hnone]
    exact cleared_none hmarks
  | append_singleton ids id ih =>
    have hgone : (fun other => decide (other ∈ ids ++ [id])) =
        fun other => decide (other ∈ ids) || decide (other = id) := by
      funext other
      simp
    rw [hgone, withoutNodes, List.foldl_concat]
    exact ih.departed (departed_withoutNode _ id)

/-- Only nodes of the room can leave it. -/
theorem Cleared.congr {gone' : String → Bool} (hwf : before.WellFormed)
    (h : Cleared gone before after)
    (hsame : ∀ id, before.nodes.contains id = true → gone' id = gone id) :
    Cleared gone' before after := by
  have htaken : ∀ name, before.takenAlong gone' name = before.takenAlong gone name := by
    intro name
    rw [takenAlong, takenAlong]
    cases hstream : before.streams.get? name with
    | none => rfl
    | some stream => exact hsame stream.source (hwf.source_mem hstream)
  constructor
  case contains_node =>
    intro id
    rw [h.contains_node]
    exact and_congr_right fun hid => by rw [hsame id hid]
  case contains_stream =>
    intro name
    rw [h.contains_stream, htaken]
  case relays_iff =>
    intro id was now hwas hnow name
    rw [h.relays_iff hwas hnow, htaken]
  case same_node => exact h.same_node
  case stream =>
    intro name was now hwas hnow
    have hstream := h.stream hwas hnow
    refine ⟨?_, hstream.forwarding_iff, hstream.source, hstream.media, hstream.buffer⟩
    rw [hstream.targets]
    refine List.filter_congr fun target htarget => ?_
    rw [hsame target (hwf.target_mem hwas htarget)]

end Room

end RelayMesh
