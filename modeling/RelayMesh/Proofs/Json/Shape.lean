import RelayMesh.Proofs.Json.Reading
import RelayMesh.Proofs.Table

/-!
# Shapes of what was written

A value is a document in which no key stands twice, so the readers of typed
data find in it what was put there.

* `Value.Carried.value?_document` says that a value is kept as it is, if it is
  not nested too deep.
* `fields?_object` and `fields?_record` say which fields are found, and
  `fields?_members` and `fields?_items` are for documents of any kind.
* `optional_document` and `list_document` reduce the shapes that are made of
  another one to that one.
-/

namespace RelayMesh.Json

variable {α : Type} {value : Value} {depth limit : Nat}

theorem documentsOf_eq_map (items : List Value) : documentsOf items = items.map Value.document := by
  induction items with
  | nil => rfl
  | cons item items ih => rw [documentsOf, ih, List.map_cons]

theorem documentMembersOf_eq_map (members : List (String × Value)) :
    documentMembersOf members =
      members.map (fun member => (some member.1, member.2.document)) := by
  induction members with
  | nil => rfl
  | cons member members ih =>
    obtain ⟨key, value⟩ := member
    rw [documentMembersOf, ih, List.map_cons]

/-! ## Values that are kept -/

theorem valuesOf?_documentsOf {items : List Value}
    (h : ∀ item ∈ items, item.document.value? limit = some item) :
    valuesOf? limit (documentsOf items) = some items := by
  induction items with
  | nil => rfl
  | cons item items ih =>
    rw [documentsOf, valuesOf?, h item List.mem_cons_self,
      ih fun other hmem => h other (List.mem_cons_of_mem _ hmem)]
    rfl

theorem membersOf?_documentMembersOf {members : List (String × Value)}
    (h : ∀ member ∈ members, member.2.document.value? limit = some member.2) :
    membersOf? limit (documentMembersOf members) = some members := by
  induction members with
  | nil => rfl
  | cons member members ih =>
    obtain ⟨key, value⟩ := member
    have hvalue : value.document.value? limit = some value := h (key, value) List.mem_cons_self
    rw [documentMembersOf, membersOf?, hvalue,
      ih fun other hmem => h other (List.mem_cons_of_mem _ hmem)]
    rfl

/-- An object whose members are in order is a record. -/
theorem Value.record_of_sorted {members : List (String × Value)}
    (h : members.Pairwise (fun a b => a.1 < b.1)) : record members = .object members :=
  congrArg Value.object (Table.entries_ofList h)

/-- What a text carries is kept as it is. -/
theorem Value.Carried.value?_document (h : value.Carried depth) (hle : depth ≤ limit) :
    value.document.value? limit = some value := by
  induction h generalizing limit with
  | null | bool | int | string => rfl
  | array _ ih =>
    have hitems := valuesOf?_documentsOf fun item hmem => ih item hmem (Nat.le_sub_one_of_lt hle)
    rw [document, Document.value?, if_neg (Nat.ne_of_gt (Nat.zero_lt_of_lt hle)), hitems]
    rfl
  | object hsorted _ ih =>
    have hmembers := membersOf?_documentMembersOf fun member hmem =>
      ih member hmem (Nat.le_sub_one_of_lt hle)
    rw [document, Document.value?, if_neg (Nat.ne_of_gt (Nat.zero_lt_of_lt hle)), hmembers,
      Option.map_some, record_of_sorted hsorted]

/-- A record is carried if its members are. -/
theorem Value.carried_record {members : List (String × Value)}
    (h : ∀ member ∈ members, member.2.Carried depth) : (record members).Carried (depth + 1) :=
  .object (Table.ofList members).sorted fun member hmem =>
    h member (Table.mem_of_mem_entries_ofList hmem)

theorem Value.carried_array {toJson : α → Value} (h : ∀ a, (toJson a).Carried depth)
    (list : List α) : (array (list.map toJson)).Carried (depth + 1) := by
  refine .array fun item hmem => ?_
  obtain ⟨a, -, rfl⟩ := List.mem_map.1 hmem
  exact h a

/-! ## Fields of records -/

theorem filter_key {members : List (String × α)} (hnodup : (members.map Prod.fst).Nodup)
    (name : String) :
    members.filter (fun member => member.1 = name) =
      ((members.lookup name).map (fun found => (name, found))).toList := by
  induction members with
  | nil => rfl
  | cons member members ih =>
    obtain ⟨hnew, hmembers⟩ := List.nodup_cons.1 hnodup
    rw [List.filter_cons, Table.lookup_cons, ih hmembers]
    by_cases h : member.1 = name
    · have hnone : members.lookup name = none := by
        rw [List.lookup_eq_none_iff]
        intro other hother
        rw [bne_iff_ne]
        rintro rfl
        rw [h] at hnew
        exact hnew (List.mem_map_of_mem hother)
      simp [h, hnone, Prod.ext_iff]
    · simp [h, Ne.symm h]

theorem lookup_of_mem {members : List (String × α)} (hnodup : (members.map Prod.fst).Nodup)
    {member : String × α} (hmem : member ∈ members) :
    members.lookup member.1 = some member.2 := by
  have hfound : member ∈ members.filter (fun other => other.1 = member.1) :=
    List.mem_filter.2 ⟨hmem, by simp⟩
  rw [filter_key hnodup, Option.mem_toList, Option.map_eq_some_iff] at hfound
  obtain ⟨found, hlookup, heq⟩ := hfound
  rw [hlookup, ← heq]

/-- The fields of an object are its members, if no key stands twice. -/
theorem fields?_object {members : List (String × Value)} (hnodup : (members.map Prod.fst).Nodup)
    (names : List String) :
    (Value.object members).document.fields? names =
      some (names.map fun name => (members.lookup name).map Value.document) := by
  have hnames : (documentMembersOf members).any (fun member => member.1.isNone) = false := by
    rw [documentMembersOf_eq_map, List.any_map, List.any_eq_false]
    intro member _
    simp
  have hfield : ∀ name, (documentMembersOf members).filter (fun member => member.1 = some name) =
      ((members.lookup name).map (fun found => (some name, found.document))).toList := by
    intro name
    rw [documentMembersOf_eq_map, List.filter_map]
    simp only [Function.comp_def, Option.some.injEq]
    rw [filter_key hnodup]
    cases members.lookup name <;> rfl
  rw [Value.document, Document.fields?, hnames, if_neg Bool.false_ne_true]
  refine Eq.trans ?_ List.mapM_pure
  refine congrArg (fun field => names.mapM field) (funext fun name => ?_)
  rw [hfield]
  cases members.lookup name <;> rfl

/-- The fields of a record are its members; of two members of one key the later one counts. -/
theorem fields?_record (members : List (String × Value)) (names : List String) :
    (Value.record members).document.fields? names =
      some (names.map fun name => ((Table.ofList members).get? name).map Value.document) :=
  fields?_object (Table.ofList members).nodup_keys names

/-! ## Fields of documents

A document may have a key twice, so what it has under a name is more than a lookup. -/

/-- What the members of an object have under a name: nothing, or one document. -/
inductive Under (name : String) (members : List (Option String × Document)) :
    Option Document → Prop where
  | missing (h : members.filter (fun member => member.1 = some name) = []) :
    Under name members none
  | single (found : Document)
    (h : members.filter (fun member => member.1 = some name) = [(some name, found)]) :
    Under name members (some found)

/-- The one document that the members of an object have under a name, if any. -/
def under? (members : List (Option String × Document)) (name : String) : Option (Option Document) :=
  match members.filter (fun member => member.1 = some name) with
  | [] => some none
  | [member] => some (some member.2)
  | _ => none

theorem fields?_eq_mapM (members : List (Option String × Document)) (names : List String) :
    (Document.object members).fields? names =
      if members.any (fun member => member.1.isNone) then none
      else names.mapM (under? members) := rfl

theorem under?_eq_some_iff {name : String} {members : List (Option String × Document)}
    {found : Option Document} : under? members name = some found ↔ Under name members found := by
  constructor
  · intro h
    rw [under?] at h
    split at h
    case h_1 hnone =>
      obtain rfl := Option.some.inj h
      exact .missing hnone
    case h_2 member hone =>
      obtain rfl := Option.some.inj h
      have hmem : member ∈ members.filter (fun member => member.1 = some name) :=
        hone ▸ List.mem_cons_self
      have hname : member.1 = some name := by simpa using (List.mem_filter.1 hmem).2
      exact .single member.2 (by rw [hone, ← hname])
    case h_3 => exact nomatch h
  · rintro (h | ⟨found, h⟩) <;> rw [under?, h]

/-- The two fields of an object are what it has under their names. -/
theorem fields?_members {members : List (Option String × Document)} {first second : String}
    {a b : Option Document} :
    (Document.object members).fields? [first, second] = some [a, b] ↔
      (∀ member ∈ members, member.1 ≠ none) ∧ Under first members a ∧ Under second members b := by
  have hkeys : ¬members.any (fun member => member.1.isNone) = true ↔
      ∀ member ∈ members, member.1 ≠ none := by
    simp only [List.any_eq_true, Option.isNone_iff_eq_none, not_exists, not_and, ne_eq]
  rw [fields?_eq_mapM, Option.ite_none_left_eq_some, hkeys]
  simp [Option.bind_eq_some_iff, under?_eq_some_iff]

/-- The two fields of an array are its elements, if there are no others. -/
theorem fields?_items {items : List Document} {first second : String} {a b : Option Document} :
    (Document.array items).fields? [first, second] = some [a, b] ↔
      items.length ≤ 2 ∧ items[0]? = a ∧ items[1]? = b := by
  simp [Document.fields?, List.range_succ]

/-! ## Strings, options and lists -/

@[simp] theorem text_document (text : String) :
    Shape.text (Value.string text).document = some text := rfl

theorem optional_document (h : value ≠ .null) (shape : Shape α) :
    Shape.optional shape value.document = (shape value.document).map some := by
  cases value with
  | null => exact absurd rfl h
  | bool | int | float | string | array | object => rfl

/-- A list is read back whose elements are. -/
theorem list_document {shape : Shape α} {toJson : α → Value}
    (h : ∀ a, shape (toJson a).document = some a) (list : List α) :
    Shape.list shape (Value.array (list.map toJson)).document = some list := by
  rw [Value.document, documentsOf_eq_map, List.map_map, Shape.list, List.mapM_map]
  refine (congrArg (fun read => list.mapM read) (funext h)).trans ?_
  exact List.mapM_pure.trans (congrArg some (List.map_id list))

end RelayMesh.Json
