import RelayMesh.Table
import RelayMesh.Decimal.Shortest

/-!
# JSON values and their compact text

A `Value` keeps whole numbers and floating numbers apart, and an object lists
its members in increasing key order, each key once; `Value.record` builds
such an object.  `Value.render` writes the compact text: no blanks, a
floating number as the shortest decimal that reads back, and only quotes,
backslashes and control characters escaped.
-/

namespace RelayMesh.Json

/-- A JSON value. -/
inductive Value where
  | null
  | bool (b : Bool)
  | int (n : Int)
  | float (x : Float)
  | string (text : String)
  | array (items : List Value)
  | object (members : List (String × Value))
deriving Inhabited

namespace Value

/-- The object of a list of members; of two members of one key the later one stays. -/
def record (members : List (String × Value)) : Value :=
  .object (Table.ofList members).entries

/-- A number that JSON can write; an undefined or infinite one becomes `null`. -/
def real (x : Float) : Value :=
  if x.isFinite then .float x else .null

/-- The value or `null`. -/
def ofOption {α : Type} (f : α → Value) : Option α → Value
  | none => .null
  | some a => f a

/-- The member of an object under a key. -/
def get? : Value → String → Option Value
  | .object members, key => members.lookup key
  | _, _ => none

/-- The text of a string value. -/
def text? : Value → Option String
  | .string text => some text
  | _ => none

/-- The members of an object. -/
def members? : Value → Option (List (String × Value))
  | .object members => some members
  | _ => none

end Value

/-- The last hexadecimal digit of a number. -/
def hexDigit (n : Nat) : Char :=
  (Nat.toDigits 16 (n % 16)).headD '0'

/-- One character inside a quoted text. -/
def escapeChar (c : Char) : List Char :=
  if c = '"' then ['\\', '"']
  else if c = '\\' then ['\\', '\\']
  else if c = '\n' then ['\\', 'n']
  else if c = '\r' then ['\\', 'r']
  else if c = '\t' then ['\\', 't']
  else if c.toNat = 8 then ['\\', 'b']
  else if c.toNat = 12 then ['\\', 'f']
  else if c.toNat < 32 then ['\\', 'u', '0', '0', hexDigit (c.toNat / 16), hexDigit c.toNat]
  else [c]

/-- A text between quotes. -/
def quoteChars (text : List Char) : List Char :=
  '"' :: text.flatMap escapeChar ++ ['"']

/-- A text between quotes. -/
def quote (text : String) : String :=
  String.ofList (quoteChars text.toList)

/-- The text of a floating number.  A decimal point stands where the magnitude is below `10 ^ 16`
and not below `10 ^ -5`; any other number has an exponent, which always carries its sign. -/
def renderReal (x : Float) : String :=
  let sign := if x.toBits.toNat / Nat.pow 2 63 = 1 then "-" else ""
  if !x.isFinite then "null"
  else if x == 0 then sign ++ "0.0"
  else
    let s := Decimal.shortest x
    let digits := (toString s.digits).toList
    let count : Int := digits.length
    let point := count + s.exponent
    let body :=
      if 0 ≤ s.exponent ∧ point ≤ 16 then
        digits ++ List.replicate s.exponent.natAbs '0' ++ ['.', '0']
      else if 0 < point ∧ point ≤ 16 then
        digits.take point.natAbs ++ '.' :: digits.drop point.natAbs
      else if -5 < point ∧ point ≤ 0 then
        '0' :: '.' :: List.replicate point.natAbs '0' ++ digits
      else
        let fraction := if digits.length = 1 then [] else '.' :: digits.drop 1
        let mark := if 0 < point then ['e', '+'] else ['e']
        digits.take 1 ++ fraction ++ mark ++ (toString (point - 1)).toList
    sign ++ String.ofList body

mutual

/-- The compact text of a value. -/
def Value.render : Value → String
  | .null => "null"
  | .bool true => "true"
  | .bool false => "false"
  | .int n => toString n
  | .float x => renderReal x
  | .string text => quote text
  | .array items => "[" ++ renderItems items ++ "]"
  | .object members => "\x7b" ++ renderMembers members ++ "\x7d"

/-- The texts of the elements of an array, with commas between. -/
def renderItems : List Value → String
  | [] => ""
  | [item] => item.render
  | item :: rest => item.render ++ "," ++ renderItems rest

/-- The texts of the members of an object, with commas between. -/
def renderMembers : List (String × Value) → String
  | [] => ""
  | [(key, value)] => quote key ++ ":" ++ value.render
  | (key, value) :: rest => quote key ++ ":" ++ value.render ++ "," ++ renderMembers rest

end

end RelayMesh.Json
