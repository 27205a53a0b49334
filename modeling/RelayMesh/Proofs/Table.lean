import Mathlib.Data.List.Induction
import Mathlib.Data.List.Perm.Basic
import RelayMesh.Table

/-!
# Entries, identifiers and sizes of tables

`RelayMesh.Table` says what each operation does to the view `get?`.  This
file relates the view to what a table lists: its entries, its identifiers and
its size.

* `mem_entries_iff` and `mem_keys` read the entries and the identifiers off
  the view, and `nodup_keys` says that no identifier is listed twice.
* `keys_insert_of_contains` and `entries_insert_perm` say what an insertion
  does to them.
* `entries_ofList` reads a list in order off the table that is made of it, and
  `entries_ofList_perm` is for lists in any order.
* `IdSet.contains_ofList` and `IdSet.size_ofList_le` describe the set of the
  identifiers of a list.
-/

namespace RelayMesh

namespace Table

variable {α β : Type}

/-! ## The entries and the view -/

theorem lookup_eq_some_iff {entries : List (String × α)} {id : String} {value : α}
    (hsorted : entries.Pairwise (fun a b => a.1 < b.1)) :
    entries.lookup id = some value ↔ (id, value) ∈ entries := by
  induction entries with
  | nil => simp
  | cons head rest ih =>
    obtain ⟨hhead, hrest⟩ := List.pairwise_cons.1 hsorted
    rw [lookup_cons, List.mem_cons]
    split
    · rename_i heq
      have hnot : (head.1, value) ∉ rest := fun hmem =>
        String.lt_irrefl head.1 (hhead (head.1, value) hmem)
      simp [heq, hnot, Prod.ext_iff, eq_comm]
    · rename_i hne
      rw [ih hrest]
      simp [Prod.ext_iff, hne]

/-- The entries are the values of the view. -/
theorem mem_entries_iff (table : Table α) (id : String) (value : α) :
    (id, value) ∈ table.entries ↔ table.get? id = some value :=
  (lookup_eq_some_iff table.sorted).symm

theorem mem_keys {table : Table α} {id : String} :
    id ∈ table.keys ↔ ∃ value, table.get? id = some value := by
  rw [mem_keys_iff, Option.isSome_iff_exists]

theorem mem_values {table : Table α} {value : α} :
    value ∈ table.values ↔ ∃ id, table.get? id = some value := by
  simp [values, ← mem_entries_iff]

/-- No identifier is listed twice. -/
theorem nodup_keys (table : Table α) : table.keys.Nodup := by
  refine (List.pairwise_map.2 table.sorted).imp fun hlt heq => ?_
  rw [heq] at hlt
  exact String.lt_irrefl _ hlt

/-- The identifiers are listed in increasing order. -/
theorem sorted_keys (table : Table α) : table.keys.Pairwise (· < ·) :=
  List.pairwise_map.2 table.sorted

theorem nodup_entries (table : Table α) : table.entries.Nodup := by
  refine table.sorted.imp fun hlt heq => ?_
  rw [heq] at hlt
  exact String.lt_irrefl _ hlt

theorem contains_iff {table : Table α} {id : String} :
    table.contains id = true ↔ ∃ value, table.get? id = some value :=
  Option.isSome_iff_exists

theorem contains_insert (table : Table α) (id other : String) (value : α) :
    (table.insert id value).contains other = (decide (other = id) || table.contains other) := by
  rw [contains, get?_insert, contains]
  by_cases h : other = id <;> simp [h]

theorem contains_erase (table : Table α) (id other : String) :
    (table.erase id).contains other = (!decide (other = id) && table.contains other) := by
  rw [contains, get?_erase, contains]
  by_cases h : other = id <;> simp [h]

theorem contains_modify (table : Table α) (id other : String) (f : α → α) :
    (table.modify id f).contains other = table.contains other := by
  rw [contains, get?_modify, contains]
  split
  · exact Option.isSome_map
  · rfl

theorem isEmpty_iff {table : Table α} : table.isEmpty = true ↔ table = ∅ := by
  rw [isEmpty, List.isEmpty_iff]
  constructor
  · intro hnil
    refine ext_get? fun id => ?_
    rw [get?, hnil]
    rfl
  · intro hempty
    rw [hempty]
    rfl

/-! ## Insertions -/

theorem keys_map (table : Table α) (f : String → α → β) : (table.map f).keys = table.keys := by
  simp [keys, map]

theorem size_map (table : Table α) (f : String → α → β) : (table.map f).size = table.size := by
  simp [size, map]

/-- Under an identifier that is there, an insertion is a change of the value. -/
theorem insert_eq_modify {table : Table α} {id : String} (h : table.contains id = true)
    (value : α) : table.insert id value = table.modify id (fun _ => value) := by
  obtain ⟨old, hold⟩ := contains_iff.1 h
  refine ext_get? fun other => ?_
  rw [get?_insert, get?_modify]
  split
  · rename_i heq
    rw [heq, hold]
    rfl
  · rfl

theorem keys_insert_of_contains {table : Table α} {id : String} (h : table.contains id = true)
    (value : α) : (table.insert id value).keys = table.keys := by
  rw [insert_eq_modify h, modify, keys_map]

/-- An insertion puts the new entry among the entries of the other identifiers. -/
theorem entries_insert_perm (table : Table α) (id : String) (value : α) :
    (table.insert id value).entries.Perm
      ((id, value) :: table.entries.filter (fun entry => entry.1 ≠ id)) := by
  have hnodup :
      ((id, value) :: table.entries.filter (fun entry => entry.1 ≠ id)).Nodup := by
    refine List.nodup_cons.2 ⟨fun hmem => ?_, table.nodup_entries.filter _⟩
    simpa using (List.mem_filter.1 hmem).2
  refine (List.perm_ext_iff_of_nodup (table.insert id value).nodup_entries hnodup).2 ?_
  rintro ⟨other, found⟩
  rw [mem_entries_iff, get?_insert, List.mem_cons, List.mem_filter, mem_entries_iff]
  by_cases h : other = id
  · simp [h, eq_comm]
  · simp [h]

theorem insert_of_get? {table : Table α} {id : String} {value : α}
    (h : table.get? id = some value) : table.insert id value = table := by
  refine ext_get? fun other => ?_
  rw [get?_insert]
  split
  · rename_i heq
    rw [heq, h]
  · rfl

theorem size_eq_length_keys (table : Table α) : table.size = table.keys.length := by
  simp [size, keys]

theorem size_insert_le (table : Table α) (id : String) (value : α) :
    (table.insert id value).size ≤ table.size + 1 := by
  rw [size, (table.entries_insert_perm id value).length_eq, List.length_cons]
  exact Nat.succ_le_succ (List.length_filter_le ..)

/-! ## Tables of lists -/

theorem ofList_concat (entries : List (String × α)) (entry : String × α) :
    ofList (entries ++ [entry]) = (ofList entries).insert entry.1 entry.2 :=
  List.foldl_concat ..

theorem place_of_forall_lt {id : String} {entries : List (String × α)}
    (h : ∀ entry ∈ entries, entry.1 < id) (value : α) :
    place id value entries = entries ++ [(id, value)] := by
  induction entries with
  | nil => rfl
  | cons head rest ih =>
    have hhead := h head List.mem_cons_self
    rw [place, if_neg (String.lt_asymm hhead), if_pos hhead,
      ih fun entry hmem => h entry (List.mem_cons_of_mem _ hmem)]
    rfl

/-- Entries that are listed in order are the entries of their table. -/
theorem entries_ofList {entries : List (String × α)}
    (h : entries.Pairwise (fun a b => a.1 < b.1)) : (ofList entries).entries = entries := by
  induction entries using List.reverseRecOn with
  | nil => rfl
  | append_singleton entries entry ih =>
    obtain ⟨hentries, -, hlast⟩ := List.pairwise_append.1 h
    have hplace : (ofList (entries ++ [entry])).entries =
        place entry.1 entry.2 (ofList entries).entries := by
      rw [ofList_concat]
      rfl
    rw [hplace, ih hentries]
    exact place_of_forall_lt
      (fun other hother => hlast other hother entry (List.mem_singleton_self _)) entry.2

theorem mem_of_mem_entries_ofList {entries : List (String × α)} {entry : String × α}
    (h : entry ∈ (ofList entries).entries) : entry ∈ entries := by
  induction entries using List.reverseRecOn with
  | nil => exact nomatch h
  | append_singleton entries last ih =>
    rw [ofList_concat, (entries_insert_perm ..).mem_iff, List.mem_cons, List.mem_filter] at h
    obtain rfl | ⟨hentry, -⟩ := h
    · exact List.mem_concat_self
    · exact List.mem_append_left _ (ih hentry)

/-- Entries without a common identifier are all there in their table. -/
theorem entries_ofList_perm {entries : List (String × α)}
    (hnodup : (entries.map Prod.fst).Nodup) : (ofList entries).entries.Perm entries := by
  induction entries using List.reverseRecOn with
  | nil => exact .refl _
  | append_singleton entries entry ih =>
    rw [List.map_append, List.nodup_append] at hnodup
    obtain ⟨hentries, -, hnew⟩ := hnodup
    have hothers : ∀ other ∈ (ofList entries).entries, decide (other.1 ≠ entry.1) = true := by
      intro other hmem
      have hname : other.1 ∈ entries.map Prod.fst :=
        List.mem_map_of_mem (mem_of_mem_entries_ofList hmem)
      exact decide_eq_true (hnew _ hname _ (List.mem_singleton_self _))
    rw [ofList_concat]
    refine (entries_insert_perm _ _ _).trans ?_
    rw [List.filter_eq_self.2 hothers]
    exact ((ih hentries).cons entry).trans (List.perm_append_singleton entry entries).symm

end Table

namespace IdSet

variable {ids other : IdSet} {id : String}

theorem ext_contains (h : ∀ id, ids.contains id = other.contains id) : ids = other := by
  refine Table.ext_get? fun id => ?_
  have hid := h id
  rw [Table.contains, Table.contains] at hid
  cases hfirst : ids.get? id <;> cases hsecond : other.get? id <;> simp_all

theorem contains_foldl_insert (entries : List (String × Unit)) (ids : IdSet) (id : String) :
    (entries.foldl (fun table entry => table.insert entry.1 entry.2) ids).contains id = true ↔
      id ∈ entries.map Prod.fst ∨ ids.contains id = true := by
  induction entries generalizing ids with
  | nil => simp
  | cons head rest ih =>
    rw [List.foldl_cons, ih, Table.contains, Table.get?_insert, List.map_cons, List.mem_cons]
    split
    · simp [*]
    · simp [*, Table.contains]

/-- The set of the identifiers of a list has the members of the list. -/
@[simp] theorem contains_ofList (list : List String) (id : String) :
    (ofList list).contains id = true ↔ id ∈ list := by
  rw [ofList, Table.ofList, contains_foldl_insert]
  simp [Table.contains]

theorem toList_ofList_perm {list : List String} (hnodup : list.Nodup) :
    (ofList list).toList.Perm list := by
  refine (List.perm_ext_iff_of_nodup (Table.nodup_keys _) hnodup).2 fun id => ?_
  rw [Table.mem_keys, ← Table.contains_iff, contains_ofList]

/-- Lists with the same members make the same set. -/
theorem ofList_congr {list other : List String} (h : ∀ id, id ∈ list ↔ id ∈ other) :
    ofList list = ofList other := by
  refine ext_contains fun id => ?_
  rw [Bool.eq_iff_iff, contains_ofList, contains_ofList, h id]

theorem size_foldl_insert_le (entries : List (String × Unit)) (ids : IdSet) :
    (entries.foldl (fun table entry => table.insert entry.1 entry.2) ids).size ≤
      entries.length + ids.size := by
  induction entries generalizing ids with
  | nil => simp
  | cons head rest ih =>
    rw [List.foldl_cons, List.length_cons]
    have hrest := ih (ids.insert head.1 head.2)
    have hhead := ids.size_insert_le head.1 head.2
    omega

/-- A set has no more members than the list that it was made of. -/
theorem size_ofList_le (list : List String) : (ofList list).size ≤ list.length := by
  have h := size_foldl_insert_le (list.map (fun id => (id, ()))) ∅
  rw [List.length_map] at h
  exact h

end IdSet

end RelayMesh
