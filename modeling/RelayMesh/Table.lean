/-!
# Tables in key order

A `Table` holds one value per identifier and lists its entries in increasing
order of the identifiers, so a table that is printed or walked always shows
the same order.  The order is part of the type, and no operation needs a
well-formedness hypothesis.

The view of a table is `get?`.  Every operation has one lemma that says what
it does to the view (`get?_insert`, `get?_erase`, `get?_map`, `get?_filter`,
`get?_modify`), and `Table.ext_get?` says that the view determines the table.
An `IdSet` is a table without values: a set of identifiers.
-/

namespace RelayMesh

/-- One value per identifier, in increasing order of the identifiers. -/
structure Table (α : Type) where
  entries : List (String × α)
  sorted : entries.Pairwise (fun a b => a.1 < b.1)

namespace Table

variable {α β : Type}

/-- Puts one entry at its place, over an entry of the same identifier. -/
def place (id : String) (value : α) : List (String × α) → List (String × α)
  | [] => [(id, value)]
  | head :: rest =>
    if id < head.1 then (id, value) :: head :: rest
    else if head.1 < id then head :: place id value rest
    else (id, value) :: rest

theorem fst_of_mem_place {id : String} {value : α} {entry : String × α}
    {entries : List (String × α)} (h : entry ∈ place id value entries) :
    entry.1 = id ∨ entry ∈ entries := by
  induction entries with
  | nil => simp_all [place]
  | cons head rest ih =>
    rw [place] at h
    split at h
    · rcases List.mem_cons.1 h with rfl | h
      · exact .inl rfl
      · exact .inr h
    · split at h
      · rcases List.mem_cons.1 h with rfl | h
        · exact .inr (List.mem_cons_self ..)
        · exact (ih h).imp_right (List.mem_cons_of_mem _)
      · rcases List.mem_cons.1 h with rfl | h
        · exact .inl rfl
        · exact .inr (List.mem_cons_of_mem _ h)

theorem sorted_place (id : String) (value : α) {entries : List (String × α)}
    (h : entries.Pairwise (fun a b => a.1 < b.1)) :
    (place id value entries).Pairwise (fun a b => a.1 < b.1) := by
  induction entries with
  | nil => simp [place]
  | cons head rest ih =>
    have hrest := List.pairwise_cons.1 h
    rw [place]
    split
    · next hlt =>
      refine List.pairwise_cons.2 ⟨fun entry hmem => ?_, h⟩
      rcases List.mem_cons.1 hmem with rfl | hmem
      · exact hlt
      · exact String.lt_trans hlt (hrest.1 _ hmem)
    · split
      · next hlt =>
        refine List.pairwise_cons.2 ⟨fun entry hmem => ?_, ih hrest.2⟩
        rcases fst_of_mem_place hmem with heq | hmem
        · exact heq ▸ hlt
        · exact hrest.1 _ hmem
      · next hge hle =>
        have heq : id = head.1 :=
          String.le_antisymm (String.not_lt.1 hle) (String.not_lt.1 hge)
        exact List.pairwise_cons.2 ⟨fun entry hmem => heq ▸ hrest.1 _ hmem, hrest.2⟩

/-- The table without entries. -/
def empty : Table α := ⟨[], List.Pairwise.nil⟩

instance : EmptyCollection (Table α) := ⟨empty⟩

instance : Inhabited (Table α) := ⟨empty⟩

instance [BEq α] : BEq (Table α) := ⟨fun a b => a.entries == b.entries⟩

instance [DecidableEq α] : DecidableEq (Table α) := fun a b =>
  decidable_of_iff (a.entries = b.entries)
    ⟨fun h => by cases a; cases b; simp_all, fun h => h ▸ rfl⟩

/-- The value kept under `id`. -/
def get? (table : Table α) (id : String) : Option α :=
  table.entries.lookup id

/-- Whether a value is kept under `id`. -/
def contains (table : Table α) (id : String) : Bool :=
  (table.get? id).isSome

/-- Keeps `value` under `id`, in place of what was there. -/
def insert (table : Table α) (id : String) (value : α) : Table α :=
  ⟨place id value table.entries, sorted_place id value table.sorted⟩

/-- Keeps only the entries that `keep` accepts. -/
def filter (table : Table α) (keep : String → α → Bool) : Table α :=
  ⟨table.entries.filter (fun entry => keep entry.1 entry.2), table.sorted.filter _⟩

/-- Drops the entry of `id`. -/
def erase (table : Table α) (id : String) : Table α :=
  table.filter (fun other _ => other != id)

/-- Changes every value; the identifiers stay. -/
def map (table : Table α) (f : String → α → β) : Table β :=
  ⟨table.entries.map (fun entry => (entry.1, f entry.1 entry.2)),
    List.pairwise_map.2 table.sorted⟩

/-- Changes the value kept under `id`, if there is one. -/
def modify (table : Table α) (id : String) (f : α → α) : Table α :=
  table.map (fun other value => if other = id then f value else value)

/-- The identifiers, in increasing order. -/
def keys (table : Table α) : List String :=
  table.entries.map Prod.fst

/-- The values, in the order of their identifiers. -/
def values (table : Table α) : List α :=
  table.entries.map Prod.snd

/-- The number of entries. -/
def size (table : Table α) : Nat :=
  table.entries.length

/-- Whether there is no entry. -/
def isEmpty (table : Table α) : Bool :=
  table.entries.isEmpty

/-- The table of a list of entries; of two entries of one identifier the later one stays. -/
def ofList (entries : List (String × α)) : Table α :=
  entries.foldl (fun table entry => table.insert entry.1 entry.2) ∅

/-! ## The view -/

@[simp] theorem get?_empty (id : String) : (∅ : Table α).get? id = none := rfl

theorem lookup_cons (id : String) (head : String × α) (rest : List (String × α)) :
    (head :: rest).lookup id = if id = head.1 then some head.2 else rest.lookup id := by
  obtain ⟨key, value⟩ := head
  rw [List.lookup_cons]
  by_cases h : id = key
  · rw [beq_iff_eq.2 h, if_pos h]
  · rw [beq_eq_false_iff_ne.2 h, if_neg h]

theorem lookup_eq_none {id : String} {entries : List (String × α)}
    (h : ∀ entry ∈ entries, id < entry.1) : entries.lookup id = none := by
  induction entries with
  | nil => rfl
  | cons head rest ih =>
    have hne : id ≠ head.1 := by
      rintro heq
      exact String.lt_irrefl _ (heq ▸ h head (List.mem_cons_self ..))
    rw [lookup_cons, if_neg hne]
    exact ih fun entry hmem => h entry (List.mem_cons_of_mem _ hmem)

theorem lookup_place (id other : String) (value : α) (entries : List (String × α)) :
    (place id value entries).lookup other =
      if other = id then some value else entries.lookup other := by
  induction entries with
  | nil => rw [place, lookup_cons]
  | cons head rest ih =>
    rw [place]
    split
    · rw [lookup_cons]
    · split
      · next hlt =>
        rw [lookup_cons, lookup_cons, ih]
        have hne : head.1 ≠ id := by
          intro heq
          exact String.lt_irrefl _ (heq ▸ hlt)
        grind
      · next hge hle =>
        have heq : id = head.1 :=
          String.le_antisymm (String.not_lt.1 hle) (String.not_lt.1 hge)
        rw [lookup_cons, lookup_cons]
        grind

theorem get?_insert (table : Table α) (id other : String) (value : α) :
    (table.insert id value).get? other = if other = id then some value else table.get? other :=
  lookup_place id other value table.entries

theorem get?_map (table : Table α) (f : String → α → β) (id : String) :
    (table.map f).get? id = (table.get? id).map (f id) := by
  simp only [get?, map]
  induction table.entries with
  | nil => rfl
  | cons head rest ih =>
    rw [List.map_cons, lookup_cons, lookup_cons, ih]
    split
    · next h => subst h; rfl
    · rfl

theorem get?_modify (table : Table α) (id other : String) (f : α → α) :
    (table.modify id f).get? other =
      if other = id then (table.get? other).map f else table.get? other := by
  rw [modify, get?_map]
  split <;> simp [*]

theorem get?_filter (table : Table α) (keep : String → α → Bool) (id : String) :
    (table.filter keep).get? id = (table.get? id).filter (keep id) := by
  obtain ⟨entries, sorted⟩ := table
  simp only [get?, filter]
  induction entries with
  | nil => rfl
  | cons head rest ih =>
    have hrest := List.pairwise_cons.1 sorted
    rw [List.filter_cons]
    by_cases h : id = head.1
    · subst h
      split
      · next hkeep => simp [lookup_cons, hkeep, Option.filter]
      · next hkeep =>
        simp only [ih hrest.2, lookup_cons, lookup_eq_none hrest.1, if_true]
        simp [Option.filter, hkeep]
    · split <;> simp [lookup_cons, h, ih hrest.2]

theorem get?_erase (table : Table α) (id other : String) :
    (table.erase id).get? other = if other = id then none else table.get? other := by
  rw [erase, get?_filter]
  by_cases h : other = id
  · subst h; cases table.get? other <;> simp [Option.filter]
  · cases table.get? other <;> simp [Option.filter, h]

theorem mem_keys_iff (table : Table α) (id : String) :
    id ∈ table.keys ↔ (table.get? id).isSome := by
  simp only [keys, get?]
  induction table.entries with
  | nil => simp
  | cons head rest ih =>
    rw [List.map_cons, List.mem_cons, lookup_cons, ih]
    split <;> simp [*]

/-- Equal views make equal tables. -/
theorem ext_get? {a b : Table α} (h : ∀ id, a.get? id = b.get? id) : a = b := by
  obtain ⟨as, has⟩ := a
  obtain ⟨bs, hbs⟩ := b
  simp only [get?] at h
  suffices as = bs by subst this; rfl
  induction as generalizing bs with
  | nil =>
    cases bs with
    | nil => rfl
    | cons head rest => simpa [lookup_cons] using h head.1
  | cons head rest ih =>
    have hhead := List.pairwise_cons.1 has
    cases bs with
    | nil => simpa [lookup_cons] using h head.1
    | cons head' rest' =>
      have hhead' := List.pairwise_cons.1 hbs
      have hid : head.1 = head'.1 := by
        refine String.le_antisymm (String.not_lt.1 fun hlt => ?_) (String.not_lt.1 fun hlt => ?_)
        · have hfind := h head'.1
          rw [lookup_eq_none, lookup_cons, if_pos rfl] at hfind
          · simp at hfind
          · rintro entry (_ | ⟨_, hmem⟩)
            · exact hlt
            · exact String.lt_trans hlt (hhead.1 _ hmem)
        · have hfind := h head.1
          rw [lookup_cons, if_pos rfl, lookup_eq_none] at hfind
          · simp at hfind
          · rintro entry (_ | ⟨_, hmem⟩)
            · exact hlt
            · exact String.lt_trans hlt (hhead'.1 _ hmem)
      have hvalue : head.2 = head'.2 := by
        have hfind := h head.1
        simpa [lookup_cons, hid] using hfind
      have hrest : rest = rest' := by
        refine ih hhead.2 rest' hhead'.2 (fun id => ?_)
        by_cases heq : id = head.1
        · rw [lookup_eq_none (heq ▸ hhead.1), lookup_eq_none (heq ▸ hid ▸ hhead'.1)]
        · have hfind := h id
          rwa [lookup_cons, lookup_cons, if_neg heq, if_neg (hid ▸ heq)] at hfind
      exact congr (congrArg List.cons (Prod.ext hid hvalue)) hrest

end Table

/-- A set of identifiers, listed in increasing order. -/
abbrev IdSet := Table Unit

namespace IdSet

/-- The set of the identifiers of a list. -/
def ofList (ids : List String) : IdSet :=
  Table.ofList (ids.map (fun id => (id, ())))

/-- The identifiers, in increasing order. -/
def toList (ids : IdSet) : List String :=
  ids.keys

end IdSet

end RelayMesh
