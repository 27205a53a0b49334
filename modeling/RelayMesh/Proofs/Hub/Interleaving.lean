import RelayMesh.Proofs.Hub.Run

/-!
# Operations of the hub that overlap

The sessions of a server run side by side, and an operation of the hub is not
done in one go.  It looks a room up in the map, works on the room object that
it has found, and comes back to the map.  Each of these steps is atomic, and
steps of other operations may come in between.

* To join, a client gets the room object, which is made if the map holds none,
  and then inserts its node into the object.
* To depart, it looks the room object up, takes the node out of the object,
  and then has the room dropped if the one that the map holds is empty.  A
  departure may be on behalf of a session; then it spares a node that the
  session does not own.

`State` is what the operations share and how far each of them has come.  A
room object lives on when the map no longer holds it, as long as somebody
works on it, so objects have addresses.  `advance_took` lists what a step can
come to, and `rooms_sequential` says that operations whose steps follow one
another are the hub's own operations.
-/

namespace RelayMesh

namespace Interleaved

variable {α : Type}

/-! ## Operations and their steps -/

/-- What a client asks of the hub. -/
inductive Op (α : Type) where
  | join (room node : String) (arrival : Node α)
  /-- A departure, on behalf of a session or of nobody. -/
  | depart (room node : String) (session : Option String)

namespace Op

def room : Op α → String
  | join room _ _ => room
  | depart room _ _ => room

/-- The operation without steps of others in between. -/
def perform (op : Op α) (hub : Hub α) : Hub α :=
  match op with
  | join room node arrival => (hub.join room node arrival).2
  | depart room node none => hub.settle (hub.leave room node)
  | depart room node (some session) => (hub.leaveSession room node session).2

end Op

/-- How far an operation has come. -/
inductive Stage where
  | waiting
  /-- It has a room object and works on it next. -/
  | holding (address : Nat)
  /-- It has taken its node out, and the room may have to be dropped. -/
  | removed
  /-- It is over, and it has done what it was asked or not. -/
  | returned (done : Bool)
deriving Repr, DecidableEq

/-- An operation in progress. -/
structure Task (α : Type) where
  op : Op α
  stage : Stage := .waiting

/-- A room and the identifier that it was made for. -/
structure Object (α : Type) where
  id : String
  room : Room α := ∅

/-- The room objects, the map of the rooms and the operations in progress. -/
structure State (α : Type) where
  objects : List (Object α) := []
  /-- The address of the room object under each identifier. -/
  mapped : Table Nat := ∅
  tasks : List (Task α) := []

namespace State

/-- The room object at an address. -/
def object (state : State α) (address : Nat) : Room α :=
  ((state.objects[address]?).map Object.room).getD ∅

/-- The rooms as the map holds them. -/
def rooms (state : State α) : Table (Room α) :=
  state.mapped.map (fun _ address => state.object address)

/-- The rooms of a hub that no operation works on. -/
def of (hub : Hub α) : State α where
  objects := hub.rooms.entries.map (fun entry => ⟨entry.1, entry.2⟩)
  mapped := hub.rooms.map (fun id _ => hub.rooms.keys.idxOf id)

/-- The state with an operation at another stage. -/
def setStage (state : State α) (k : Nat) (stage : Stage) : State α :=
  { state with tasks := state.tasks.modify k (fun task => { task with stage }) }

/-- Makes an empty room for an identifier. -/
def create (state : State α) (id : String) : State α :=
  { state with
    objects := state.objects ++ [{ id }]
    mapped := state.mapped.insert id state.objects.length }

/-- Changes the room object at an address. -/
def modify (state : State α) (address : Nat) (f : Room α → Room α) : State α :=
  { state with
    objects := state.objects.modify address (fun object => { object with room := f object.room }) }

/-- The map no longer holds a room. -/
def unmap (state : State α) (id : String) : State α :=
  { state with mapped := state.mapped.erase id }

/-- Whether the room that the map holds is empty. -/
def isVacant (state : State α) (id : String) : Bool :=
  (state.rooms.get? id).any (fun room => room.nodes.isEmpty)

/-- Takes the next step of an operation. -/
def advance (state : State α) (k : Nat) : State α :=
  match state.tasks[k]? with
  | none => state
  | some { op, stage } =>
    match op, stage with
    | .join room _ _, .waiting =>
      match state.mapped.get? room with
      | some address => state.setStage k (.holding address)
      | none => (state.create room).setStage k (.holding state.objects.length)
    | .join _ node arrival, .holding address =>
      (state.modify address (fun room => room.addNode node arrival)).setStage k (.returned true)
    | .depart room _ _, .waiting =>
      match state.mapped.get? room with
      | some address => state.setStage k (.holding address)
      | none => state.setStage k (.returned false)
    | .depart _ node session, .holding address =>
      match (state.object address).removeNodeIf node (fun node => session.all node.isOwnedBy) with
      | none => state.setStage k (.returned false)
      | some (_, rest) => (state.modify address (fun _ => rest)).setStage k .removed
    | .depart room _ _, .removed =>
      if state.isVacant room then (state.unmap room).setStage k (.returned true)
      else state.setStage k (.returned true)
    | _, _ => state

end State

/-- What happens: a client asks for an operation, or an operation takes a step. -/
inductive Move (α : Type) where
  | issue (op : Op α)
  | advance (k : Nat)

namespace State

def step (state : State α) : Move α → State α
  | .issue op => { state with tasks := state.tasks ++ [{ op }] }
  | .advance k => state.advance k

def run (state : State α) (moves : List (Move α)) : State α :=
  moves.foldl step state

/-- An operation whose steps follow one another. -/
def uninterrupted (state : State α) (op : Op α) : State α :=
  state.run [.issue op, .advance state.tasks.length, .advance state.tasks.length,
    .advance state.tasks.length]

variable {state after : State α} {id other : String} {k j address : Nat} {stage : Stage}
  {op op' : Op α}

/-! ## Parts of a state -/

@[simp] theorem mapped_setStage : (state.setStage k stage).mapped = state.mapped := rfl
@[simp] theorem rooms_setStage : (state.setStage k stage).rooms = state.rooms := rfl
@[simp] theorem tasks_create : (state.create id).tasks = state.tasks := rfl
@[simp] theorem mapped_modify {f : Room α → Room α} :
    (state.modify address f).mapped = state.mapped := rfl

theorem tasks_setStage :
    (state.setStage k stage).tasks[j]? =
      if j = k then (state.tasks[j]?).map (fun task => { task with stage })
      else state.tasks[j]? := by
  rw [setStage, List.getElem?_modify]
  by_cases h : k = j
  · simp [h]
  · simp [h, Ne.symm h]

theorem get?_rooms :
    state.rooms.get? id = (state.mapped.get? id).map state.object :=
  Table.get?_map ..

theorem get?_mapped_create :
    (state.create id).mapped.get? other =
      if other = id then some state.objects.length else state.mapped.get? other :=
  Table.get?_insert ..

theorem get?_mapped_unmap :
    (state.unmap id).mapped.get? other = if other = id then none else state.mapped.get? other :=
  Table.get?_erase ..

theorem get?_rooms_unmap :
    (state.unmap id).rooms.get? other = if other = id then none else state.rooms.get? other := by
  rw [get?_rooms, get?_mapped_unmap, get?_rooms]
  split <;> rfl

theorem object_modify_self {f : Room α → Room α} {held : Object α}
    (h : state.objects[address]? = some held) :
    (state.modify address f).object address = f (state.object address) := by
  rw [object, modify, List.getElem?_modify]
  simp [object, h]

theorem object_modify_of_ne {f : Room α → Room α} {b : Nat} (h : b ≠ address) :
    (state.modify address f).object b = state.object b := by
  rw [object, modify, List.getElem?_modify]
  simp [object, Ne.symm h]

theorem objects_modify {f : Room α → Room α} (b : Nat) :
    ((state.modify address f).objects[b]?).map Object.id = (state.objects[b]?).map Object.id := by
  rw [modify, List.getElem?_modify]
  cases state.objects[b]? with
  | none => rfl
  | some held => by_cases hb : address = b <;> simp [hb]

/-! ## Addresses -/

/-- The map and the operations have the addresses of objects that were made for their rooms. -/
structure Sound (state : State α) : Prop where
  mapped : ∀ {id address}, state.mapped.get? id = some address →
    (state.objects[address]?).map Object.id = some id
  held : ∀ {k : Nat} {op : Op α} {address}, state.tasks[k]? = some ⟨op, .holding address⟩ →
    (state.objects[address]?).map Object.id = some op.room

/-- The object of a room stands where its identifier does among all identifiers. -/
theorem objects_of {hub : Hub α} {room : Room α} (h : hub.rooms.get? id = some room) :
    (of hub).objects[hub.rooms.keys.idxOf id]? = some ⟨id, room⟩ := by
  have hmem : id ∈ hub.rooms.keys := Table.mem_keys.2 ⟨room, h⟩
  have hkey : hub.rooms.keys[hub.rooms.keys.idxOf id]? = some id := List.getElem?_idxOf hmem
  rw [Table.keys, List.getElem?_map] at hkey
  obtain ⟨⟨key, found⟩, hentry, rfl⟩ := Option.map_eq_some_iff.1 hkey
  have hfound := (Table.mem_entries_iff hub.rooms key found).1 (List.mem_of_getElem? hentry)
  rw [h] at hfound
  rw [of, List.getElem?_map, Option.some.inj hfound]
  exact congrArg (Option.map _) hentry

theorem sound_of (hub : Hub α) : (of hub).Sound where
  mapped {id address} h := by
    rw [of, Table.get?_map] at h
    obtain ⟨room, hroom, rfl⟩ := Option.map_eq_some_iff.1 h
    exact congrArg (Option.map Object.id) (objects_of hroom)
  held h := nomatch h

theorem rooms_of (hub : Hub α) : (of hub).rooms = hub.rooms := by
  apply Table.ext_get?
  intro id
  rw [get?_rooms, of, Table.get?_map]
  cases hroom : hub.rooms.get? id with
  | none => rfl
  | some room => exact congrArg (fun held => some ((held.map Object.room).getD ∅)) (objects_of hroom)

/-! ## What a step can come to -/

/-- What it comes to when an operation takes a step. -/
inductive Took (state : State α) (k : Nat) : State α → Prop where
  /-- There is no such operation, or it is over. -/
  | idle : Took state k state
  /-- Neither the map nor an object changes; if the operation has got an object, it is the one that
  the map holds. -/
  | moved {op : Op α} {stage stage' : Stage} (htask : state.tasks[k]? = some ⟨op, stage⟩)
      (hfound : ∀ address, stage' = .holding address → state.mapped.get? op.room = some address)
      (hjoin : ∀ room node arrival, op = .join room node arrival → stage' ≠ .returned true) :
    Took state k (state.setStage k stage')
  | created {room node : String} {arrival : Node α}
      (htask : state.tasks[k]? = some ⟨.join room node arrival, .waiting⟩)
      (hnone : state.mapped.get? room = none) :
    Took state k ((state.create room).setStage k (.holding state.objects.length))
  | inserted {room node : String} {arrival : Node α} {address : Nat}
      (htask : state.tasks[k]? = some ⟨.join room node arrival, .holding address⟩) :
    Took state k ((state.modify address (fun room => room.addNode node arrival)).setStage k
      (.returned true))
  | removed {room node : String} {session : Option String} {address : Nat}
      (htask : state.tasks[k]? = some ⟨.depart room node session, .holding address⟩) :
    Took state k
      ((state.modify address (fun _ => (state.object address).withoutNode node)).setStage k .removed)
  | dropped {room node : String} {session : Option String}
      (htask : state.tasks[k]? = some ⟨.depart room node session, .removed⟩)
      (hvacant : state.isVacant room = true) :
    Took state k ((state.unmap room).setStage k (.returned true))

theorem advance_took (state : State α) (k : Nat) : state.Took k (state.advance k) := by
  unfold advance
  split
  · exact .idle
  · rename_i op stage htask
    split
    · split
      · rename_i address hmapped
        exact .moved htask (fun b hb => by rw [← Stage.holding.inj hb]; exact hmapped)
          fun _ _ _ _ h => nomatch h
      · rename_i hnone
        exact .created htask hnone
    · exact .inserted htask
    · split
      · rename_i address hmapped
        exact .moved htask (fun b hb => by rw [← Stage.holding.inj hb]; exact hmapped)
          fun _ _ _ h => nomatch h
      · exact .moved htask (fun _ h => nomatch h) fun _ _ _ h => nomatch h
    · split
      · exact .moved htask (fun _ h => nomatch h) fun _ _ _ h => nomatch h
      · rename_i found rest hremove
        rw [← (Room.removeNodeIf_eq_some.1 hremove).2.2]
        exact .removed htask
    · split
      · rename_i hvacant
        exact .dropped htask hvacant
      · exact .moved htask (fun _ h => nomatch h) fun _ _ _ h => nomatch h
    · exact .idle

/-! ## Addresses along a run -/

theorem Sound.lt (h : state.Sound) (hmapped : state.mapped.get? id = some address) :
    address < state.objects.length := by
  obtain ⟨held, hheld, -⟩ := Option.map_eq_some_iff.1 (h.mapped hmapped)
  exact (List.getElem?_eq_some_iff.1 hheld).1

theorem objects_create (h : address < state.objects.length) :
    (state.create id).objects[address]? = state.objects[address]? :=
  List.getElem?_append_left h

theorem objects_create_length :
    (state.create id).objects[state.objects.length]? = some { id } :=
  List.getElem?_concat_length

theorem tasks_issue (h : (state.step (.issue op)).tasks[k]? = some ⟨op', stage⟩) :
    state.tasks[k]? = some ⟨op', stage⟩ ∨ stage = .waiting := by
  rw [step] at h
  dsimp only at h
  rw [List.getElem?_append] at h
  split at h
  · exact .inl h
  · right
    rw [List.getElem?_singleton] at h
    split at h
    · exact (Task.mk.inj (Option.some.inj h)).2.symm
    · exact nomatch h

/-- An operation that gets a new stage has an object of its room if its stage says so. -/
theorem Sound.setStage (h : state.Sound) (htask : state.tasks[k]?.map Task.op = some op)
    (hheld : ∀ address, stage = .holding address →
      (state.objects[address]?).map Object.id = some op.room) : (state.setStage k stage).Sound where
  mapped := h.mapped
  held {j op' address} hj := by
    rw [tasks_setStage] at hj
    split at hj
    · rename_i heq
      obtain ⟨task, hfound, hstage⟩ := Option.map_eq_some_iff.1 hj
      rw [heq] at hfound
      rw [hfound] at htask
      obtain ⟨hop, hstage⟩ := Task.mk.inj hstage
      rw [← hop, Option.some.inj htask]
      exact hheld address hstage
    · exact h.held hj

theorem Sound.create (h : state.Sound) (id : String) : (state.create id).Sound where
  mapped {other address} hmapped := by
    rw [get?_mapped_create] at hmapped
    split at hmapped
    · rename_i heq
      rw [← Option.some.inj hmapped, objects_create_length, heq]
      rfl
    · rw [objects_create (h.lt hmapped)]
      exact h.mapped hmapped
  held {j op address} hj := by
    have hheld := h.held hj
    obtain ⟨held, hfound, -⟩ := Option.map_eq_some_iff.1 hheld
    rw [objects_create (List.getElem?_eq_some_iff.1 hfound).1]
    exact hheld

theorem Sound.modify (h : state.Sound) (address : Nat) (f : Room α → Room α) :
    (state.modify address f).Sound where
  mapped hmapped := (objects_modify _).trans (h.mapped hmapped)
  held hj := (objects_modify _).trans (h.held hj)

theorem Sound.unmap (h : state.Sound) (id : String) : (state.unmap id).Sound where
  mapped {other address} hmapped := by
    rw [get?_mapped_unmap] at hmapped
    split at hmapped
    · exact nomatch hmapped
    · exact h.mapped hmapped
  held hj := h.held hj

theorem Sound.step (h : state.Sound) (move : Move α) : (state.step move).Sound := by
  cases move with
  | issue op =>
    refine ⟨h.mapped, fun {j op' address} hj => ?_⟩
    obtain hbefore | hnew := tasks_issue hj
    · exact h.held hbefore
    · exact nomatch hnew
  | advance k =>
    rw [State.step]
    have htook := state.advance_took k
    generalize state.advance k = after at htook ⊢
    cases htook with
    | idle => exact h
    | moved htask hfound hjoin =>
      refine h.setStage (congrArg (Option.map Task.op) htask) fun address hstage => ?_
      exact h.mapped (hfound address hstage)
    | created htask hnone =>
      refine (h.create _).setStage (congrArg (Option.map Task.op) htask) fun address hstage => ?_
      rw [← Stage.holding.inj hstage, objects_create_length]
      rfl
    | inserted htask =>
      exact (h.modify _ _).setStage (congrArg (Option.map Task.op) htask) fun _ h => nomatch h
    | removed htask =>
      exact (h.modify _ _).setStage (congrArg (Option.map Task.op) htask) fun _ h => nomatch h
    | dropped htask hvacant =>
      exact (h.unmap _).setStage (congrArg (Option.map Task.op) htask) fun _ h => nomatch h

theorem Sound.run (h : state.Sound) (moves : List (Move α)) : (state.run moves).Sound :=
  List.foldlRecOn moves State.step h fun _ h move _ => h.step move

/-! ## Operations without steps of others in between -/

/-- An address belongs to one room, so a change of an object is seen in that room only. -/
theorem Sound.rooms_modify (h : state.Sound) (hmapped : state.mapped.get? id = some address)
    (f : Room α → Room α) :
    (state.modify address f).rooms = state.rooms.insert id (f (state.object address)) := by
  obtain ⟨held, hheld, -⟩ := Option.map_eq_some_iff.1 (h.mapped hmapped)
  apply Table.ext_get?
  intro other
  rw [Table.get?_insert, get?_rooms, mapped_modify, get?_rooms]
  split
  · rename_i heq
    rw [heq, hmapped]
    exact congrArg some (object_modify_self hheld)
  · rename_i hne
    cases hother : state.mapped.get? other with
    | none => rfl
    | some b =>
      have hb : b ≠ address := by
        rintro rfl
        have hid := h.mapped hother
        rw [h.mapped hmapped] at hid
        exact hne (Option.some.inj hid).symm
      exact congrArg some (object_modify_of_ne hb)

theorem Sound.rooms_create (h : state.Sound) (id : String) :
    (state.create id).rooms = state.rooms.insert id ∅ := by
  apply Table.ext_get?
  intro other
  rw [Table.get?_insert, get?_rooms, get?_mapped_create, get?_rooms]
  split
  · rw [Option.map_some, object, objects_create_length]
    rfl
  · cases hother : state.mapped.get? other with
    | none => rfl
    | some b =>
      rw [Option.map_some, object, objects_create (h.lt hother)]
      rfl

theorem rooms_unmap : (state.unmap id).rooms = state.rooms.erase id := by
  apply Table.ext_get?
  intro other
  rw [get?_rooms_unmap, Table.get?_erase]

theorem tasks_setStage_self (htask : state.tasks[k]? = some ⟨op, stage⟩) (stage' : Stage) :
    (state.setStage k stage').tasks[k]? = some ⟨op, stage'⟩ := by
  rw [tasks_setStage, if_pos rfl, htask]
  rfl

theorem advance_returned {done : Bool} (htask : state.tasks[k]? = some ⟨op, .returned done⟩) :
    state.advance k = state := by
  rw [advance, htask]
  cases op <;> rfl

/-! ### Steps of one operation -/

theorem advance_join_waiting {room node : String} {arrival : Node α}
    (htask : state.tasks[k]? = some ⟨.join room node arrival, .waiting⟩) :
    state.advance k =
      match state.mapped.get? room with
      | some address => state.setStage k (.holding address)
      | none => (state.create room).setStage k (.holding state.objects.length) := by
  rw [advance, htask]

theorem advance_join_holding {room node : String} {arrival : Node α}
    (htask : state.tasks[k]? = some ⟨.join room node arrival, .holding address⟩) :
    state.advance k =
      (state.modify address (fun room => room.addNode node arrival)).setStage k
        (.returned true) := by
  rw [advance, htask]

theorem advance_depart_waiting {room node : String} {session : Option String}
    (htask : state.tasks[k]? = some ⟨.depart room node session, .waiting⟩) :
    state.advance k =
      match state.mapped.get? room with
      | some address => state.setStage k (.holding address)
      | none => state.setStage k (.returned false) := by
  rw [advance, htask]

theorem advance_depart_holding {room node : String} {session : Option String}
    (htask : state.tasks[k]? = some ⟨.depart room node session, .holding address⟩) :
    state.advance k =
      match (state.object address).removeNodeIf node (fun node => session.all node.isOwnedBy) with
      | none => state.setStage k (.returned false)
      | some (_, rest) => (state.modify address (fun _ => rest)).setStage k .removed := by
  rw [advance, htask]

theorem rooms_advance_removed {room node : String} {session : Option String}
    (htask : state.tasks[k]? = some ⟨.depart room node session, .removed⟩) :
    (state.advance k).rooms =
      if state.isVacant room then state.rooms.erase room else state.rooms := by
  rw [advance, htask]
  dsimp only
  split
  · exact rooms_unmap
  · rfl

theorem rooms_join_uninterrupted (h : state.Sound) {hub : Hub α} (hrooms : hub.rooms = state.rooms)
    {room node : String} {arrival : Node α}
    (htask : state.tasks[k]? = some ⟨.join room node arrival, .waiting⟩) :
    (((state.advance k).advance k).advance k).rooms =
      ((Op.join room node arrival).perform hub).rooms := by
  have hfound : hub.rooms.get? room = (state.mapped.get? room).map state.object := by
    rw [hrooms, get?_rooms]
  -- the third step finds the operation over
  have hover : ∀ {before : State α} (address : Nat),
      before.tasks[k]? = some ⟨.join room node arrival, .holding address⟩ →
      ((before.advance k).advance k).rooms =
        (before.modify address (fun room => room.addNode node arrival)).rooms := by
    intro before address hheld
    have hmodified : (before.modify address (fun room => room.addNode node arrival)).tasks[k]? =
        some ⟨.join room node arrival, .holding address⟩ := hheld
    have hdone := tasks_setStage_self hmodified (.returned true)
    rw [advance_join_holding hheld, advance_returned hdone]
    rfl
  rw [advance_join_waiting htask, Op.perform, Hub.join, Hub.createRoom]
  cases hmapped : state.mapped.get? room with
  | some address =>
    have hheld := tasks_setStage_self htask (.holding address)
    rw [hmapped] at hfound
    have hcontains : hub.rooms.contains room = true := Table.contains_iff.2 ⟨_, hfound⟩
    dsimp only
    rw [hover address hheld, if_pos hcontains, hfound]
    have hinserted := h.rooms_modify hmapped (fun room => room.addNode node arrival)
    rw [← hrooms] at hinserted
    exact hinserted
  | none =>
    have hcreated : (state.create room).tasks[k]? =
        some ⟨.join room node arrival, .waiting⟩ := htask
    have hheld := tasks_setStage_self hcreated (.holding state.objects.length)
    have hmade : (state.create room).mapped.get? room = some state.objects.length := by
      rw [get?_mapped_create, if_pos rfl]
    have hempty : (state.create room).object state.objects.length = ∅ := by
      rw [object, objects_create_length]
      rfl
    rw [hmapped] at hfound
    have hcontains : ¬hub.rooms.contains room = true := by
      rw [Table.contains, hfound]
      exact Bool.false_ne_true
    dsimp only
    rw [hover state.objects.length hheld, if_neg hcontains, Hub.get?_withRoom_self]
    have hinserted := (h.create room).rooms_modify hmade (fun room => room.addNode node arrival)
    rw [hempty, h.rooms_create, ← hrooms] at hinserted
    exact hinserted

/-- A departure takes a node out that it may take out, and a room without nodes goes. -/
theorem perform_depart {hub : Hub α} {room node : String} {session : Option String} :
    (Op.depart room node session).perform hub =
      match (hub.rooms.get? room).bind
          (fun r => r.removeNodeIf node (fun node => session.all node.isOwnedBy)) with
      | none => hub
      | some (_, rest) => (hub.withRoom room rest).dropIfEmpty room := by
  cases hfound : hub.rooms.get? room with
  | none =>
    cases session with
    | none =>
      rw [Op.perform, Hub.leave, Hub.room, hfound]
      rfl
    | some session =>
      rw [Op.perform, Hub.leaveSession, hfound]
      rfl
  | some found =>
    cases session with
    | none =>
      rw [Op.perform, Hub.leave, Hub.room_of_get? hfound, Option.bind_some]
      dsimp only [Room.removeNode, Option.all]
      cases found.removeNodeIf node fun _ => true <;> rfl
    | some session =>
      rw [Op.perform, Hub.leaveSession, hfound, Option.bind_some, Option.bind_some]
      dsimp only [Option.all]
      cases found.removeNodeIf node fun node => node.isOwnedBy session <;> rfl

theorem rooms_depart_uninterrupted (h : state.Sound) {hub : Hub α}
    (hrooms : hub.rooms = state.rooms) {room node : String} {session : Option String}
    (htask : state.tasks[k]? = some ⟨.depart room node session, .waiting⟩) :
    (((state.advance k).advance k).advance k).rooms =
      ((Op.depart room node session).perform hub).rooms := by
  have hfound : hub.rooms.get? room = (state.mapped.get? room).map state.object := by
    rw [hrooms, get?_rooms]
  rw [advance_depart_waiting htask, perform_depart, hfound]
  cases hmapped : state.mapped.get? room with
  | none =>
    have hover := tasks_setStage_self htask (.returned false)
    rw [advance_returned hover, advance_returned hover]
    exact hrooms.symm
  | some address =>
    have hheld := tasks_setStage_self htask (.holding address)
    dsimp only
    rw [advance_depart_holding hheld, Option.map_some, Option.bind_some]
    have hobject : (state.setStage k (.holding address)).object address = state.object address := rfl
    rw [hobject]
    cases (state.object address).removeNodeIf node (fun node => session.all node.isOwnedBy) with
    | none =>
      have hover := tasks_setStage_self hheld (.returned false)
      dsimp only
      rw [advance_returned hover]
      exact hrooms.symm
    | some result =>
      have hmodified : ((state.setStage k (.holding address)).modify address
          (fun _ => result.2)).tasks[k]? = some ⟨.depart room node session, .holding address⟩ :=
        hheld
      have hremoved := tasks_setStage_self hmodified .removed
      have hinserted : ((state.setStage k (.holding address)).modify address
          (fun _ => result.2)).rooms = (hub.withRoom room result.2).rooms := by
        rw [Hub.withRoom, hrooms]
        exact h.rooms_modify hmapped (fun _ => result.2)
      dsimp only
      rw [rooms_advance_removed hremoved, isVacant, rooms_setStage, hinserted, Hub.dropIfEmpty]
      split <;> rfl

/-- An operation whose steps follow one another is the hub's operation. -/
theorem rooms_uninterrupted (h : state.Sound) {hub : Hub α} (hrooms : hub.rooms = state.rooms)
    (op : Op α) : (state.uninterrupted op).rooms = (op.perform hub).rooms := by
  have hissued : (state.step (.issue op)).Sound := h.step (.issue op)
  have htask : (state.step (.issue op)).tasks[state.tasks.length]? = some ⟨op, .waiting⟩ :=
    List.getElem?_concat_length
  cases op with
  | join room node arrival => exact rooms_join_uninterrupted hissued hrooms htask
  | depart room node session => exact rooms_depart_uninterrupted hissued hrooms htask

/-- Operations that do not overlap do what the hub does, one operation after the other. -/
theorem rooms_sequential (hub : Hub α) (ops : List (Op α)) :
    (ops.foldl uninterrupted (of hub)).rooms =
      (ops.foldl (fun hub op => op.perform hub) hub).rooms := by
  have hall : ∀ {state : State α} {hub : Hub α}, state.Sound → hub.rooms = state.rooms →
      (ops.foldl uninterrupted state).rooms =
        (ops.foldl (fun hub op => op.perform hub) hub).rooms := by
    induction ops with
    | nil => exact fun _ hrooms => hrooms.symm
    | cons op rest ih =>
      intro state hub hsound hrooms
      exact ih (hsound.run _) (rooms_uninterrupted hsound hrooms op).symm
  exact hall (sound_of hub) (rooms_of hub).symm

end State

end Interleaved

end RelayMesh
