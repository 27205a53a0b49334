import RelayMesh.Json.Document

/-!
# Shapes: reading typed data out of a document

A `Shape α` accepts the documents that describe a value of `α`.  The rules
are the same for every type.

* A record is an object, or an array of its fields in order.  In an object
  unknown keys are ignored and a known key stands at most once; in an array
  trailing fields may be missing and there is no surplus element.  A missing
  field takes its default, and a field without default is required.
* A choice is the name of one of its cases, or an object whose only member
  has that name and the value `null`.
* `null` stands for an absent optional value and for nothing else.
* A whole number has neither fraction nor exponent and lies within the
  bounds of its type; a floating number may be written as a whole one.

A part that is kept as it is (`Shape.value`) may be nested only to a bounded
depth, and so may what is read before it; parts that are ignored may be nested
to any depth.
-/

namespace RelayMesh.Json

/-- A reader of the documents that describe a value of `α`. -/
abbrev Shape (α : Type) := Document → Option α

namespace Shape

variable {α β : Type}

/-- A string. -/
def text : Shape String
  | .string text => text
  | _ => none

/-- `true` or `false`. -/
def flag : Shape Bool
  | .bool b => some b
  | _ => none

/-- A floating number. -/
def real : Shape Float
  | .number (.int n) => some (if n < 0 then -Float.ofNat n.natAbs else Float.ofNat n.natAbs)
  | .number (.float x) => some x
  | _ => none

/-- A whole number from zero up to, and without, a bound. -/
def natural (bound : Nat) : Shape Nat
  | .number (.int n) => if 0 ≤ n ∧ n < bound then some n.natAbs else none
  | _ => none

/-- A value or `null`. -/
def optional (shape : Shape α) : Shape (Option α)
  | .null => some none
  | document => (shape document).map some

/-- An array whose elements all have one shape. -/
def list (shape : Shape α) : Shape (List α)
  | .array items => items.mapM shape
  | _ => none

/-- One of some named cases. -/
def choice (cases : List (String × α)) : Shape α
  | .string (some name) => cases.lookup name
  | .object [(some name, .null)] => cases.lookup name
  | _ => none

/-- A shape and a function on what it reads. -/
def map (f : α → β) (shape : Shape α) : Shape β :=
  fun document => (shape document).map f

end Shape

/-- The values of the fields of a record, in the order of their names; `none` where one is missing. -/
def Document.fields? (names : List String) : Document → Option (List (Option Document))
  | .object members =>
    if members.any (fun member => member.1.isNone) then none
    else
      names.mapM fun name =>
        match members.filter (fun member => member.1 = some name) with
        | [] => some none
        | [member] => some (some member.2)
        | _ => none
  | .array items =>
    if items.length ≤ names.length then
      some ((List.range names.length).map (fun i => items[i]?))
    else none
  | _ => none

/-- A field that has to be there. -/
def required {α : Type} (shape : Shape α) (field : Option Document) : Option α :=
  field.bind shape

/-- A field that has a default. -/
def withDefault {α : Type} (value : α) (shape : Shape α) : Option Document → Option α
  | none => some value
  | some document => shape document

mutual

/-- The value that a document holds, if it is nested at most `depth` levels deep.  Of two members
of one key the later one stays. -/
def Document.value? (depth : Nat) : Document → Option Value
  | .null => some .null
  | .bool b => some (.bool b)
  | .number (.int n) => some (.int n)
  | .number (.float x) => some (.float x)
  | .number .beyond => none
  | .string text => text.map .string
  | .array items => if depth = 0 then none else (valuesOf? (depth - 1) items).map .array
  | .object members => if depth = 0 then none else (membersOf? (depth - 1) members).map .record

/-- The values that the elements of an array hold. -/
def valuesOf? (depth : Nat) : List Document → Option (List Value)
  | [] => some []
  | item :: rest => do
    let value ← item.value? depth
    let values ← valuesOf? depth rest
    pure (value :: values)

/-- The members that an object holds. -/
def membersOf? (depth : Nat) : List (Option String × Document) → Option (List (String × Value))
  | [] => some []
  | (key, item) :: rest => do
    let key ← key
    let value ← item.value? depth
    let values ← membersOf? depth rest
    pure ((key, value) :: values)

end

/-- How deep the kept parts of a text may be nested. -/
def maxDepth : Nat := 127

/-- The value that a whole text holds. -/
def Value.parse (text : String) : Option Value :=
  (Document.parse text).bind (Document.value? maxDepth)

mutual

/-- A value as a document. -/
def Value.document : Value → Document
  | .null => .null
  | .bool b => .bool b
  | .int n => .number (.int n)
  | .float x => .number (.float x)
  | .string text => .string (some text)
  | .array items => .array (documentsOf items)
  | .object members => .object (documentMembersOf members)

/-- The elements of an array as documents. -/
def documentsOf : List Value → List Document
  | [] => []
  | item :: rest => item.document :: documentsOf rest

/-- The members of an object as documents. -/
def documentMembersOf : List (String × Value) → List (Option String × Document)
  | [] => []
  | (key, value) :: rest => (some key, value.document) :: documentMembersOf rest

end

/-- What a shape reads in a whole text. -/
def Shape.parse {α : Type} (shape : Shape α) (text : String) : Option α :=
  (Document.parse text).bind shape

end RelayMesh.Json
