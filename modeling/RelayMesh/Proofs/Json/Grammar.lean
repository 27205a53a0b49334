import RelayMesh.Proofs.Json.Shape

/-!
# Grammars of typed data

A shape reads typed data by looking through a document.  A `Grammar` says of a
value and a datum, without reading anything, whether the one describes the
other, and `Reads` says that a shape finds a datum in a value exactly where the
grammar has it.  There is one grammar and one lemma for every kind of shape
(`reads_text` to `reads_choice`).

* `HasFields` gives the fields of a record by their names, whether it is an
  object or an array, and `fields?_document` says that a shape finds these.
  `required_iff` and `withDefault_iff` read one of them, and `reads_record`
  puts a record together.
* A value is `Proper` if no object in it has a key twice.  All values that
  texts hold are (`proper_of_value?`).
-/

namespace RelayMesh.Json

variable {α β : Type}

/-- A value in which no object has a key twice. -/
inductive Value.Proper : Value → Prop where
  | null : Proper .null
  | bool (b : Bool) : Proper (.bool b)
  | int (n : Int) : Proper (.int n)
  | float (x : Float) : Proper (.float x)
  | string (text : String) : Proper (.string text)
  | array {items : List Value} (h : ∀ item ∈ items, Proper item) : Proper (.array items)
  | object {members : List (String × Value)} (hnodup : (members.map Prod.fst).Nodup)
    (h : ∀ member ∈ members, Proper member.2) : Proper (.object members)

/-- Which values describe which data. -/
abbrev Grammar (α : Type) := Value → α → Prop

/-- The fields of a record of some names: the members of an object under these names, whatever
other members it has, or the elements of an array that is not too long, in the order of the
names. -/
inductive Value.HasFields (names : List String) : Value → (String → Option Value) → Prop where
  | object (members : List (String × Value)) :
    HasFields names (.object members) fun name => members.lookup name
  | array {items : List Value} (h : items.length ≤ names.length) :
    HasFields names (.array items) fun name => (names.zip items).lookup name

namespace Grammar

/-- A string. -/
def text : Grammar String := fun value text => value = .string text

/-- `true` or `false`. -/
def flag : Grammar Bool := fun value b => value = .bool b

/-- A floating number, which may be given by a whole one. -/
def real : Grammar Float := fun value x =>
  value = .float x ∨ ∃ n, value = .int n ∧ x = Float.ofInt n

/-- A whole number from zero up to, and without, a bound. -/
def natural (bound : Nat) : Grammar Nat := fun value n => value = .int n ∧ n < bound

/-- A value, or `null` for none. -/
def optional (grammar : Grammar α) : Grammar (Option α) := fun value found =>
  (value = .null ∧ found = none) ∨ (value ≠ .null ∧ ∃ a, grammar value a ∧ found = some a)

/-- The name of a case, or an object whose only member has that name and the value `null`. -/
def choice (name : α → String) : Grammar α := fun value a =>
  value = .string (name a) ∨ value = .object [(name a, .null)]

/-- What a function makes of a datum. -/
def map (f : α → β) (grammar : Grammar α) : Grammar β := fun value b =>
  ∃ a, grammar value a ∧ f a = b

/-- A record whose fields have some names. -/
def record (names : List String) (holds : (String → Option Value) → α → Prop) : Grammar α :=
  fun value a => ∃ fields, value.HasFields names fields ∧ holds fields a

/-- A field that has to be there. -/
def Required (grammar : Grammar α) (field : Option Value) (a : α) : Prop :=
  ∃ value, field = some value ∧ grammar value a

/-- A field that stands for a default where it is missing. -/
def Defaulted (default : α) (grammar : Grammar α) (field : Option Value) (a : α) : Prop :=
  (field = none ∧ a = default) ∨ Required grammar field a

end Grammar

/-- A shape finds in a value what a grammar has it describe. -/
def Reads (shape : Shape α) (grammar : Grammar α) : Prop :=
  ∀ value : Value, value.Proper → ∀ a, shape value.document = some a ↔ grammar value a

variable {shape : Shape α} {grammar : Grammar α} {value : Value}

/-! ## Values of texts -/

theorem proper_record {members : List (String × Value)} (h : ∀ member ∈ members, member.2.Proper) :
    (Value.record members).Proper :=
  .object (Table.ofList members).nodup_keys fun member hmem =>
    h member (Table.mem_of_mem_entries_ofList hmem)

mutual

/-- What is kept of a document is proper, even if the document has keys twice. -/
theorem proper_of_value? {depth : Nat} {value : Value} :
    ∀ {document : Document}, document.value? depth = some value → value.Proper
  | .null, h | .bool _, h | .number (.int _), h | .number (.float _), h => by
    obtain rfl := Option.some.inj h
    constructor
  | .number .beyond, h => nomatch h
  | .string text, h => by
    obtain ⟨text, -, rfl⟩ := Option.map_eq_some_iff.1 h
    exact .string text
  | .array items, h => by
    rw [Document.value?, Option.ite_none_left_eq_some, Option.map_eq_some_iff] at h
    obtain ⟨-, values, hvalues, rfl⟩ := h
    exact .array (proper_of_valuesOf? hvalues)
  | .object members, h => by
    rw [Document.value?, Option.ite_none_left_eq_some, Option.map_eq_some_iff] at h
    obtain ⟨-, values, hvalues, rfl⟩ := h
    exact proper_record (proper_of_membersOf? hvalues)

theorem proper_of_valuesOf? {depth : Nat} {values : List Value} :
    ∀ {documents : List Document}, valuesOf? depth documents = some values →
      ∀ value ∈ values, value.Proper
  | [], h => by
    obtain rfl := Option.some.inj h
    exact nofun
  | document :: documents, h => by
    simp only [valuesOf?, Option.bind_eq_bind, Option.bind_eq_some_iff, Option.pure_def,
      Option.some.injEq] at h
    obtain ⟨value, hvalue, values, hvalues, rfl⟩ := h
    exact List.forall_mem_cons.2 ⟨proper_of_value? hvalue, proper_of_valuesOf? hvalues⟩

theorem proper_of_membersOf? {depth : Nat} {values : List (String × Value)} :
    ∀ {members : List (Option String × Document)}, membersOf? depth members = some values →
      ∀ member ∈ values, member.2.Proper
  | [], h => by
    obtain rfl := Option.some.inj h
    exact nofun
  | (key, document) :: members, h => by
    simp only [membersOf?, Option.bind_eq_bind, Option.bind_eq_some_iff, Option.pure_def,
      Option.some.injEq] at h
    obtain ⟨key, -, value, hvalue, values, hvalues, rfl⟩ := h
    exact List.forall_mem_cons.2 ⟨proper_of_value? hvalue, proper_of_membersOf? hvalues⟩

end

/-! ## Single values -/

theorem reads_text : Reads Shape.text Grammar.text := by
  intro value _ text
  cases value <;> simp [Value.document, Shape.text, Grammar.text]

theorem reads_flag : Reads Shape.flag Grammar.flag := by
  intro value _ b
  cases value <;> simp [Value.document, Shape.flag, Grammar.flag]

theorem ofInt_eq (n : Int) :
    Float.ofInt n = if n < 0 then -Float.ofNat n.natAbs else Float.ofNat n.natAbs := by
  cases n with
  | ofNat n => exact (if_neg (Int.not_lt.2 (Int.natCast_nonneg n))).symm
  | negSucc n => exact (if_pos (Int.negSucc_lt_zero n)).symm

theorem reads_real : Reads Shape.real Grammar.real := by
  intro value _ x
  cases value <;>
    simp [Value.document, Shape.real, Grammar.real, ofInt_eq, eq_comm (a := x)]

theorem reads_natural (bound : Nat) : Reads (Shape.natural bound) (Grammar.natural bound) := by
  intro value _ n
  cases value with
  | int m =>
    simp only [Value.document, Shape.natural, Grammar.natural, Option.ite_none_right_eq_some,
      Option.some.injEq, Value.int.injEq]
    omega
  | null | bool | float | string | array | object =>
    simp [Value.document, Shape.natural, Grammar.natural]

theorem reads_optional (h : Reads shape grammar) :
    Reads (Shape.optional shape) (Grammar.optional grammar) := by
  intro value hvalue found
  by_cases hnull : value = .null
  · subst hnull
    simp [Value.document, Shape.optional, Grammar.optional, eq_comm]
  · rw [optional_document hnull, Option.map_eq_some_iff]
    simp only [h value hvalue, Grammar.optional, hnull, false_and, false_or, ne_eq,
      not_false_eq_true, true_and, eq_comm (a := found)]

theorem reads_map (f : α → β) (h : Reads shape grammar) :
    Reads (Shape.map f shape) (Grammar.map f grammar) := by
  intro value hvalue b
  rw [Shape.map, Option.map_eq_some_iff]
  simp only [h value hvalue, Grammar.map]

/-- Data that may be `null` are read like other data where there are any. -/
theorem of_optional {document : Document} {a : α}
    (h : Shape.optional shape document = some (some a)) : shape document = some a := by
  cases document with
  | null => exact nomatch Option.some.inj h
  | bool | number | string | array | object =>
    obtain ⟨found, hfound, heq⟩ := Option.map_eq_some_iff.1 h
    rw [hfound, heq]

/-! ## Named cases -/

theorem mem_of_lookup {γ : Type} {entries : List (String × γ)} {key : String} {a : γ}
    (h : entries.lookup key = some a) : (key, a) ∈ entries := by
  obtain ⟨before, after, rfl, -⟩ := List.lookup_eq_some_iff.1 h
  exact List.mem_append_right before List.mem_cons_self

theorem lookup_named {name : α → String} (hname : Function.Injective name) {all : List α}
    {a : α} (ha : a ∈ all) {key : String} :
    (all.map fun a => (name a, a)).lookup key = some a ↔ key = name a := by
  induction all with
  | nil => exact nomatch ha
  | cons first rest ih =>
    rw [List.map_cons, Table.lookup_cons]
    by_cases hkey : key = name first
    · rw [if_pos hkey, hkey, Option.some.injEq]
      exact hname.eq_iff.symm
    · rw [if_neg hkey]
      obtain rfl | hrest := List.mem_cons.1 ha
      · refine ⟨fun hfound => ?_, fun hname => absurd hname hkey⟩
        obtain ⟨_, -, heq⟩ := List.mem_map.1 (mem_of_lookup hfound)
        obtain ⟨rfl, rfl⟩ := Prod.mk.inj heq
        rfl
      · exact ih hrest

/-- A choice reads the names of all its cases. -/
theorem reads_choice {name : α → String} (hname : Function.Injective name) {all : List α}
    (hall : ∀ a, a ∈ all) :
    Reads (Shape.choice (all.map fun a => (name a, a))) (Grammar.choice name) := by
  intro value _ a
  cases value with
  | string text => simp [Value.document, Shape.choice, Grammar.choice, lookup_named hname (hall a)]
  | null | bool | int | float | array => simp [Value.document, Shape.choice, Grammar.choice]
  | object members =>
    -- only an object with a single member can name a case
    obtain _ | ⟨⟨key, found⟩, _ | ⟨second, rest⟩⟩ := members
    · simp [Value.document, documentMembersOf, Shape.choice, Grammar.choice]
    · cases found <;>
        simp [Value.document, documentMembersOf, Shape.choice, Grammar.choice,
          lookup_named hname (hall a)]
    · simp [Value.document, documentMembersOf, Shape.choice, Grammar.choice]

/-! ## Records -/

theorem Value.Proper.of_lookup {members : List (String × Value)}
    (h : (Value.object members).Proper) {name : String} (hfound : members.lookup name = some value) :
    value.Proper := by
  cases h with
  | object _ h => exact h _ (mem_of_lookup hfound)

/-- The fields of a proper value are proper. -/
theorem Value.HasFields.proper {names : List String} {fields : String → Option Value}
    {record : Value} (h : record.HasFields names fields) (hproper : record.Proper) {name : String}
    (hfound : fields name = some value) : value.Proper := by
  cases h with
  | object members => exact hproper.of_lookup hfound
  | array =>
    cases hproper with
    | array h => exact h _ (List.of_mem_zip (mem_of_lookup hfound)).2

theorem lookup_zip {names : List String} (hnodup : names.Nodup) (items : List Value) {i : Nat}
    (hi : i < names.length) : (names.zip items).lookup names[i] = items[i]? := by
  induction names generalizing items i with
  | nil => exact nomatch hi
  | cons name names ih =>
    obtain ⟨hnew, hrest⟩ := List.nodup_cons.1 hnodup
    cases items with
    | nil => rfl
    | cons item items =>
      rw [List.zip_cons_cons, Table.lookup_cons]
      cases i with
      | zero => rw [List.getElem_cons_zero, if_pos rfl, List.getElem?_cons_zero]
      | succ i =>
        have hlt : i < names.length := Nat.lt_of_succ_lt_succ hi
        have hne : names[i] ≠ name := fun heq => hnew (heq ▸ List.getElem_mem hlt)
        rw [List.getElem_cons_succ, if_neg hne, ih hrest, List.getElem?_cons_succ]

/-- A shape finds the fields of a record, and no others. -/
theorem fields?_document {names : List String} (hnames : names.Nodup) (h : value.Proper)
    {found : List (Option Document)} :
    value.document.fields? names = some found ↔ ∃ fields, value.HasFields names fields ∧
      found = names.map fun name => (fields name).map Value.document := by
  cases h with
  | null | bool | int | float | string =>
    simp only [Value.document, Document.fields?, reduceCtorEq, false_iff, not_exists]
    rintro fields ⟨⟨⟩, -⟩
  | object hnodup =>
    rw [fields?_object hnodup, Option.some.injEq]
    refine ⟨fun heq => ⟨_, .object _, heq.symm⟩, ?_⟩
    rintro ⟨_, ⟨⟩, rfl⟩
    rfl
  | @array items =>
    have hmap : (List.range names.length).map (fun i => (documentsOf items)[i]?) =
        names.map fun name => ((names.zip items).lookup name).map Value.document := by
      refine List.ext_getElem (by simp) fun i hi _ => ?_
      have hlt : i < names.length := by simpa using hi
      simp only [List.getElem_map, List.getElem_range, lookup_zip hnames items hlt,
        documentsOf_eq_map, List.getElem?_map]
    have hlength : (documentsOf items).length = items.length := by
      rw [documentsOf_eq_map, List.length_map]
    rw [Value.document, Document.fields?, hmap, hlength, Option.ite_none_right_eq_some,
      Option.some.injEq]
    constructor
    · rintro ⟨hle, heq⟩
      exact ⟨_, .array hle, heq.symm⟩
    · rintro ⟨_, hfields, rfl⟩
      cases hfields with
      | array hle => exact ⟨hle, rfl⟩

/-- Objects with the same members under some names have the same fields. -/
theorem fields?_congr {members others : List (String × Value)}
    (hmembers : (members.map Prod.fst).Nodup) (hothers : (others.map Prod.fst).Nodup)
    {names : List String} (h : ∀ name ∈ names, others.lookup name = members.lookup name) :
    (Value.object others).document.fields? names =
      (Value.object members).document.fields? names := by
  rw [fields?_object hmembers, fields?_object hothers]
  exact congrArg some (List.map_congr_left fun name hmem => by rw [h name hmem])

theorem required_iff (h : Reads shape grammar) {field : Option Value}
    (hfield : ∀ value, field = some value → value.Proper) {a : α} :
    required shape (field.map Value.document) = some a ↔ Grammar.Required grammar field a := by
  cases field with
  | none => simp [required, Grammar.Required]
  | some value => simp [required, Grammar.Required, h value (hfield value rfl)]

theorem withDefault_iff (h : Reads shape grammar) {field : Option Value}
    (hfield : ∀ value, field = some value → value.Proper) {default a : α} :
    withDefault default shape (field.map Value.document) = some a ↔
      Grammar.Defaulted default grammar field a := by
  cases field with
  | none => simp [withDefault, Grammar.Defaulted, Grammar.Required, eq_comm]
  | some value =>
    simp [withDefault, Grammar.Defaulted, Grammar.Required, h value (hfield value rfl)]

/-- A record is read if its fields are. -/
theorem reads_record {names : List String} (hnames : names.Nodup)
    {read : List (Option Document) → Option α} {holds : (String → Option Value) → α → Prop}
    (h : ∀ fields : String → Option Value,
      (∀ name value, fields name = some value → value.Proper) → ∀ a,
      read (names.map fun name => (fields name).map Value.document) = some a ↔ holds fields a) :
    Reads (fun document => (document.fields? names).bind read) (Grammar.record names holds) := by
  intro value hvalue a
  rw [Option.bind_eq_some_iff]
  constructor
  · rintro ⟨found, hfound, hread⟩
    obtain ⟨fields, hfields, rfl⟩ := (fields?_document hnames hvalue).1 hfound
    exact ⟨fields, hfields, (h fields (fun _ _ => hfields.proper hvalue) a).1 hread⟩
  · rintro ⟨fields, hfields, hholds⟩
    exact ⟨_, (fields?_document hnames hvalue).2 ⟨fields, hfields, rfl⟩,
      (h fields (fun _ _ => hfields.proper hvalue) a).2 hholds⟩

end RelayMesh.Json
