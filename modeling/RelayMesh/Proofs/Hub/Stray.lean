import RelayMesh.Proofs.Hub.Interleaving
import RelayMesh.Proofs.Run

/-!
# Joins and departures that overlap

A join gets a room object and inserts its node into it.  In between, the last
node of the room may depart, and the room is dropped: the join works on an
object that the map no longer holds, and the node is in no room although the
join returns.  The test for emptiness under the lock of the map does not see
it, because the object is still empty then.

* `JoinsKept.step` and `not_joinsKept_of_stray`: a step makes a join be lost
  exactly when it inserts the node of a join into such an object (`Stray`).
* `exists_drop`: an operation has such an object only because a departure has
  dropped the room since.
* `joins_kept_along_run_iff` is the result for whole runs.
-/

namespace RelayMesh

namespace Interleaved

namespace State

variable {α : Type} {state after : State α} {room node : String} {k j address : Nat}
  {f : Room α → Room α}

/-! ## What a join is owed -/

/-- Nobody has asked to take a node out. -/
def Spared (state : State α) (room node : String) : Prop :=
  ∀ (k : Nat) session stage, state.tasks[k]? ≠ some ⟨.depart room node session, stage⟩

/-- The room that the map holds has a node. -/
def Has (state : State α) (room node : String) : Prop :=
  ∃ found, state.rooms.get? room = some found ∧ found.nodes.contains node = true

/-- When a join has returned and nobody has asked to take its node out, the room that the map holds
has the node. -/
def JoinsKept (state : State α) : Prop :=
  ∀ (k : Nat) room node arrival,
    state.tasks[k]? = some ⟨.join room node arrival, .returned true⟩ → state.Spared room node →
    state.Has room node

/-- A join inserts its node into an object that the map does not hold under the room's identifier,
while nobody has asked to take the node out and the room that the map holds, if any, lacks it. -/
def Stray (state : State α) (move : Move α) : Prop :=
  ∃ k room node arrival address, move = .advance k ∧
    state.tasks[k]? = some ⟨.join room node arrival, .holding address⟩ ∧
    state.mapped.get? room ≠ some address ∧ state.Spared room node ∧ ¬state.Has room node

/-- A departure finds that the room that the map holds is empty, and drops it. -/
def Drops (state : State α) (move : Move α) (room : String) : Prop :=
  ∃ k node session, move = .advance k ∧
    state.tasks[k]? = some ⟨.depart room node session, .removed⟩ ∧ state.isVacant room = true

/-! ## Small changes -/

theorem spared_setStage {stage : Stage} :
    (state.setStage k stage).Spared room node ↔ state.Spared room node := by
  constructor
  · intro h j session stage' hj
    by_cases heq : j = k
    · apply h j session stage
      rw [tasks_setStage, if_pos heq, hj]
      rfl
    · apply h j session stage'
      rw [tasks_setStage, if_neg heq, hj]
  · intro h j session stage' hj
    rw [tasks_setStage] at hj
    split at hj
    · obtain ⟨⟨op, old⟩, hold, hop⟩ := Option.map_eq_some_iff.1 hj
      have hop := (Task.mk.inj hop).1
      dsimp only at hop
      rw [hop] at hold
      exact h j session old hold
    · exact h j session stage' hj

theorem has_iff : state.Has room node ↔ ∃ address, state.mapped.get? room = some address ∧
    (state.object address).nodes.contains node = true := by
  unfold Has
  rw [get?_rooms]
  cases state.mapped.get? room <;> simp

/-- A change of an object that keeps a node if the object is the node's room. -/
theorem Has.modify (h : state.Has room node) (hsound : state.Sound)
    (hf : state.mapped.get? room = some address →
      (state.object address).nodes.contains node = true →
      (f (state.object address)).nodes.contains node = true) :
    (state.modify address f).Has room node := by
  obtain ⟨b, hmapped, hcontains⟩ := has_iff.1 h
  refine has_iff.2 ⟨b, hmapped, ?_⟩
  by_cases hb : b = address
  · subst hb
    obtain ⟨held, hheld, -⟩ := Option.map_eq_some_iff.1 (hsound.mapped hmapped)
    rw [object_modify_self hheld]
    exact hf hmapped hcontains
  · rw [object_modify_of_ne hb]
    exact hcontains

theorem Has.create (h : state.Has room node) (hsound : state.Sound) {id : String}
    (hnone : state.mapped.get? id = none) : (state.create id).Has room node := by
  obtain ⟨found, hfound, hcontains⟩ := h
  have hne : room ≠ id := by
    rintro rfl
    rw [get?_rooms, hnone] at hfound
    exact nomatch hfound
  refine ⟨found, ?_, hcontains⟩
  rw [hsound.rooms_create, Table.get?_insert, if_neg hne, hfound]

theorem Has.unmap (h : state.Has room node) {id : String} (hvacant : state.isVacant id = true) :
    (state.unmap id).Has room node := by
  obtain ⟨found, hfound, hcontains⟩ := h
  have hne : room ≠ id := by
    rintro rfl
    rw [isVacant, hfound, Option.any_some, Table.isEmpty_iff] at hvacant
    rw [hvacant] at hcontains
    exact Bool.false_ne_true hcontains
  refine ⟨found, ?_, hcontains⟩
  rw [get?_rooms_unmap, if_neg hne, hfound]

theorem spared_issue {op : Op α} (h : (state.step (.issue op)).Spared room node) :
    state.Spared room node := by
  intro j session stage hj
  apply h j session stage
  rw [step]
  dsimp only
  rw [List.getElem?_append_left (List.getElem?_eq_some_iff.1 hj).1, hj]

/-- What a step has to show for the joins to be kept: the nodes that are owed stay, and a join that
returns now finds its node. -/
theorem JoinsKept.setStage (h : state.JoinsKept) {stage : Stage} {between : State α}
    (htasks : between.tasks = state.tasks)
    (hhas : ∀ room node, state.Spared room node → state.Has room node → between.Has room node)
    (hself : ∀ room node arrival, stage = .returned true →
      (state.tasks[k]?).map Task.op = some (.join room node arrival) → state.Spared room node →
      between.Has room node) :
    (between.setStage k stage).JoinsKept := by
  intro j room node arrival hj hspared
  have hbefore : state.Spared room node := by
    intro i session old hi
    rw [← htasks] at hi
    exact spared_setStage.1 hspared i session old hi
  rw [tasks_setStage, htasks] at hj
  split at hj
  · rename_i heq
    obtain ⟨task, htask, hnew⟩ := Option.map_eq_some_iff.1 hj
    obtain ⟨hop, hstage⟩ := Task.mk.inj hnew
    refine hself room node arrival hstage ?_ hbefore
    rw [← heq, htask]
    exact congrArg some hop
  · exact hhas room node hbefore (h j room node arrival hj hbefore)

/-! ## Steps that lose a join -/

theorem JoinsKept.step (h : state.JoinsKept) (hsound : state.Sound) {move : Move α}
    (hstray : ¬state.Stray move) : (state.step move).JoinsKept := by
  cases move with
  | issue op =>
    intro j room node arrival hj hspared
    obtain hbefore | hnew := tasks_issue hj
    · exact h j room node arrival hbefore (spared_issue hspared)
    · exact nomatch hnew
  | advance k =>
    rw [State.step]
    have htook := state.advance_took k
    generalize state.advance k = after at htook ⊢
    cases htook with
    | idle => exact h
    | moved htask hfound hjoin =>
      refine h.setStage rfl (fun _ _ _ hhas => hhas) fun room node arrival hstage hop _ => ?_
      rw [htask] at hop
      exact absurd hstage (hjoin room node arrival (Option.some.inj hop))
    | created htask hnone =>
      refine h.setStage rfl (fun _ _ _ hhas => hhas.create hsound hnone) fun _ _ _ hstage => ?_
      cases hstage
    | inserted htask =>
      rename_i room node arrival address
      have hkeeps : ∀ otherRoom other, state.Has otherRoom other →
          (state.modify address (fun room => room.addNode node arrival)).Has otherRoom other :=
        fun _ _ hhas => hhas.modify hsound fun _ hcontains => Room.contains_nodes_addNode hcontains
      refine h.setStage rfl (fun _ _ _ => hkeeps _ _) fun otherRoom other arrival' _ hop hspared => ?_
      rw [htask] at hop
      obtain ⟨rfl, rfl, rfl⟩ := Op.join.inj (Option.some.inj hop)
      by_cases hmapped : state.mapped.get? room = some address
      · obtain ⟨held, hheld, -⟩ := Option.map_eq_some_iff.1 (hsound.mapped hmapped)
        refine has_iff.2 ⟨address, hmapped, ?_⟩
        rw [object_modify_self hheld, Table.contains, Room.get?_nodes_addNode, if_pos rfl]
        rfl
      · apply hkeeps
        by_contra hlacks
        exact hstray ⟨k, room, node, arrival, address, rfl, htask, hmapped, hspared, hlacks⟩
    | removed htask =>
      rename_i room node session address
      refine h.setStage rfl (fun otherRoom other hspared hhas => ?_) fun _ _ _ hstage => by
        cases hstage
      refine hhas.modify hsound fun hmapped hcontains =>
        Room.contains_nodes_withoutNode hcontains ?_
      rintro rfl
      -- the address is that of the room that the operation departs from
      have hroom := hsound.held htask
      rw [hsound.mapped hmapped] at hroom
      obtain rfl := Option.some.inj hroom
      exact hspared k session _ htask
    | dropped htask hvacant =>
      refine h.setStage rfl (fun _ _ _ hhas => hhas.unmap hvacant) fun _ _ _ _ hop _ => ?_
      rw [htask] at hop
      cases hop

/-- The node of a stray join is in no room that the map holds, although the join returns. -/
theorem not_joinsKept_of_stray {move : Move α} (h : state.Stray move) :
    ¬(state.step move).JoinsKept := by
  obtain ⟨k, room, node, arrival, address, rfl, htask, hmapped, hspared, hlacks⟩ := h
  intro hkept
  rw [step, advance_join_holding htask] at hkept
  have htask' : (state.modify address (fun room => room.addNode node arrival)).tasks[k]? =
      some ⟨.join room node arrival, .holding address⟩ := htask
  have hreturned := tasks_setStage_self htask' (.returned true)
  obtain ⟨b, hb, hcontains⟩ := has_iff.1
    (hkept k room node arrival hreturned (spared_setStage.2 hspared))
  have hne : b ≠ address := by
    rintro rfl
    exact hmapped hb
  have hsame : (state.modify address (fun room => room.addNode node arrival)).object b =
      state.object b := object_modify_of_ne hne
  refine hlacks (has_iff.2 ⟨b, hb, ?_⟩)
  rw [← hsame]
  exact hcontains

/-! ## Why a join strays -/

/-- An operation that holds an object has held it before, or it has just got it. -/
theorem holding_setStage {stage : Stage} {op : Op α}
    (h : (state.setStage k stage).tasks[j]? = some ⟨op, .holding address⟩) :
    state.tasks[j]? = some ⟨op, .holding address⟩ ∨
      stage = .holding address ∧ (state.tasks[k]?).map Task.op = some op := by
  rw [tasks_setStage] at h
  split at h
  · rename_i heq
    obtain ⟨task, htask, hnew⟩ := Option.map_eq_some_iff.1 h
    obtain ⟨hop, hstage⟩ := Task.mk.inj hnew
    rw [← heq, htask]
    exact .inr ⟨hstage, congrArg some hop⟩
  · exact .inl h

/-- An operation that holds an object in vain has held it before the step, and it has held it in vain
before or the step drops the room. -/
theorem step_drops {op : Op α} {move : Move α}
    (hheld : (state.step move).tasks[k]? = some ⟨op, .holding address⟩)
    (hmapped : (state.step move).mapped.get? op.room ≠ some address) :
    state.tasks[k]? = some ⟨op, .holding address⟩ ∧
      (state.mapped.get? op.room = some address → state.Drops move op.room) := by
  cases move with
  | issue op' =>
    obtain hbefore | hnew := tasks_issue hheld
    · exact ⟨hbefore, fun hfound => absurd hfound hmapped⟩
    · exact nomatch hnew
  | advance j =>
    rw [step] at hheld hmapped
    have htook := state.advance_took j
    generalize state.advance j = after at htook hheld hmapped
    cases htook with
    | idle => exact ⟨hheld, fun hfound => absurd hfound hmapped⟩
    | moved htask hfound hjoin =>
      obtain hbefore | ⟨hstage, hop⟩ := holding_setStage hheld
      · exact ⟨hbefore, fun hfound => absurd hfound hmapped⟩
      · rw [htask] at hop
        rw [← Option.some.inj hop] at hmapped
        exact absurd (hfound address hstage) hmapped
    | created htask hnone =>
      rename_i room node arrival
      rw [mapped_setStage, get?_mapped_create] at hmapped
      obtain hbefore | ⟨hstage, hop⟩ := holding_setStage hheld
      · refine ⟨hbefore, fun hfound => ?_⟩
        split at hmapped
        · rename_i heq
          rw [heq, hnone] at hfound
          cases hfound
        · exact absurd hfound hmapped
      · rw [tasks_create, htask] at hop
        rw [← Option.some.inj hop, ← Stage.holding.inj hstage] at hmapped
        exact absurd (if_pos rfl) hmapped
    | inserted htask =>
      obtain hbefore | ⟨hstage, -⟩ := holding_setStage hheld
      · exact ⟨hbefore, fun hfound => absurd hfound hmapped⟩
      · cases hstage
    | removed htask =>
      obtain hbefore | ⟨hstage, -⟩ := holding_setStage hheld
      · exact ⟨hbefore, fun hfound => absurd hfound hmapped⟩
      · cases hstage
    | dropped htask hvacant =>
      rename_i room node session
      obtain hbefore | ⟨hstage, -⟩ := holding_setStage hheld
      · refine ⟨hbefore, fun hfound => ?_⟩
        have hroom : op.room = room := by
          by_contra hne
          rw [mapped_setStage, get?_mapped_unmap, if_neg hne] at hmapped
          exact hmapped hfound
        rw [hroom]
        exact ⟨j, node, session, rfl, htask, hvacant⟩
      · cases hstage

/-- An operation holds an object that the map does not hold only if a departure has dropped the room
since the operation got the object. -/
theorem exists_drop (hub : Hub α) {op : Op α} (moves : List (Move α))
    (hheld : ((of hub).run moves).tasks[k]? = some ⟨op, .holding address⟩)
    (hmapped : ((of hub).run moves).mapped.get? op.room ≠ some address) :
    ∃ done move, done ++ [move] <+: moves ∧
      ((of hub).run done).tasks[k]? = some ⟨op, .holding address⟩ ∧
      ((of hub).run done).mapped.get? op.room = some address ∧
      ((of hub).run done).Drops move op.room := by
  induction moves using List.reverseRecOn with
  | nil => exact nomatch hheld
  | append_singleton moves move ih =>
    rw [run, List.foldl_concat] at hheld hmapped
    obtain ⟨hbefore, hdrops⟩ := step_drops hheld hmapped
    by_cases hfound : ((of hub).run moves).mapped.get? op.room = some address
    · exact ⟨moves, move, List.prefix_rfl, hbefore, hfound, hdrops hfound⟩
    · obtain ⟨done, last, hprefix, hdone⟩ := ih hbefore hfound
      exact ⟨done, last, hprefix.trans (List.prefix_append moves [move]), hdone⟩

/-- From any hub and for any interleaving, joins are kept in every state of a run exactly when no join
strays on the way.  A join strays only after a departure has dropped the room while the join held
the room's object. -/
theorem joins_kept_along_run_iff (hub : Hub α) (moves : List (Move α)) :
    ((∀ done, done <+: moves → ((of hub).run done).JoinsKept) ↔
        ∀ done move, done ++ [move] <+: moves → ¬((of hub).run done).Stray move) ∧
      ∀ (k : Nat) op address, ((of hub).run moves).tasks[k]? = some ⟨op, .holding address⟩ →
        ((of hub).run moves).mapped.get? op.room ≠ some address →
        ∃ done move, done ++ [move] <+: moves ∧
          ((of hub).run done).tasks[k]? = some ⟨op, .holding address⟩ ∧
          ((of hub).run done).mapped.get? op.room = some address ∧
          ((of hub).run done).Drops move op.room := by
  constructor
  · refine Run.always_iff Stray (sound_of hub) (fun _ _ _ _ h => nomatch h)
      fun done move _ hsound => ⟨hsound.step move, fun hkept => ?_⟩
    exact ⟨fun hafter hstray => not_joinsKept_of_stray hstray hafter, hkept.step hsound⟩
  · exact fun k op address => exists_drop hub moves

/-- A guest gets the object of a room, and before it inserts its node, the last node of the room
departs. -/
def race : List (Move Float) :=
  let arrival : Node Float := Node.new "u" Capabilities.none 0
  [.issue (.join "r" "host" arrival), .advance 0, .advance 0,
    .issue (.join "r" "guest" arrival), .advance 1,
    .issue (.depart "r" "host" none), .advance 2, .advance 2, .advance 2, .advance 1]

/-- The guest has joined, and the map holds no room for it. -/
theorem join_lost_in_race :
    ¬∀ done, done <+: race → ((of (Hub.new Policy.standard)).run done).JoinsKept := by
  rw [(joins_kept_along_run_iff (Hub.new Policy.standard) race).1]
  intro hnone
  have hspared : ((of (Hub.new Policy.standard)).run race.dropLast).Spared "r" "guest" := by
    have htasks : ((of (Hub.new Policy.standard)).run race.dropLast).tasks =
        [⟨.join "r" "host" (Node.new "u" Capabilities.none 0), .returned true⟩,
          ⟨.join "r" "guest" (Node.new "u" Capabilities.none 0), .holding 0⟩,
          ⟨.depart "r" "host" none, .returned true⟩] := rfl
    intro k session stage hk
    rw [htasks] at hk
    have hmem := List.mem_of_getElem? hk
    simp at hmem
  refine hnone race.dropLast (.advance 1) (List.prefix_rfl) ?_
  refine ⟨1, "r", "guest", Node.new "u" Capabilities.none 0, 0, rfl, rfl, ?_, hspared, ?_⟩
  · decide +kernel
  · rintro ⟨found, hfound, -⟩
    exact nomatch hfound

end State

end Interleaved

end RelayMesh
