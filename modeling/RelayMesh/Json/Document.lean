import RelayMesh.Json.Value

/-!
# JSON documents as they are written

A `Document` is what a JSON text says before anyone asks for a shape: keys
may repeat, a number may be too large to hold, and a string may contain an
escape that is no character.  Such faults matter only in a part that a reader
keeps, so they are recorded here and refused later (`RelayMesh.Json.Shape`).

`Document.parse` reads a whole text.  The recursion is bounded by a fuel that
two steps per character never exhaust.
-/

namespace RelayMesh.Json

/-- A number of a document. -/
inductive Number where
  /-- A number without fraction and exponent that fits in 64 bits, with or without sign. -/
  | int (n : Int)
  | float (x : Float)
  /-- A number whose magnitude no `Float` holds. -/
  | beyond

/-- The syntax of a JSON text. -/
inductive Document where
  | null
  | bool (b : Bool)
  | number (n : Number)
  /-- A string, or `none` where an escape stands for no character. -/
  | string (text : Option String)
  | array (items : List Document)
  | object (members : List (Option String × Document))
deriving Inhabited

/-! ## Numbers

A number with a fraction or an exponent is a significand of at most 64 bits,
scaled once by a power of ten.  Digits that no longer fit in the significand
only move the decimal point. -/

/-- A significand and a decimal exponent. -/
structure Decimal where
  significand : Nat
  exponent : Int

/-- The value of a decimal digit. -/
def digitValue (c : Char) : Nat :=
  c.toNat - '0'.toNat

/-- Takes one digit into a significand, if it still fits in 64 bits. -/
def Decimal.push? (d : Decimal) (c : Char) : Option Decimal :=
  let next := d.significand * 10 + digitValue c
  if next < UInt64.size then some { d with significand := next } else none

/-- Takes the digits before the point: those from the first one that does not fit are counted only. -/
def Decimal.pushWhole : Decimal → List Char → Decimal
  | d, [] => d
  | d, c :: rest =>
    match d.push? c with
    | some d => d.pushWhole rest
    | none => { d with exponent := d.exponent + (rest.length + 1) }

/-- Takes the digits after the point, up to the first one that does not fit. -/
def Decimal.pushFraction : Decimal → List Char → Decimal
  | d, [] => d
  | d, c :: rest =>
    match d.push? c with
    | some next => Decimal.pushFraction { next with exponent := d.exponent - 1 } rest
    | none => d

/-- The power of ten nearest to `10 ^ n`. -/
def powerOfTen (n : Nat) : Float :=
  Float.ofScientific 1 false n

/-- `x · 10 ^ exponent`, or `none` when that is too large.  An exponent below -308 is applied in
steps of 308; three steps bring every significand to zero. -/
def scaleReal : Nat → Float → Int → Option Float
  | fuel, x, exponent =>
    if exponent.natAbs ≤ 308 then
      if 0 ≤ exponent then
        let y := x * powerOfTen exponent.natAbs
        if y.isInf then none else some y
      else some (x / powerOfTen exponent.natAbs)
    else if x == 0 then some x
    else if 0 ≤ exponent then none
    else
      match fuel with
      | 0 => some 0
      | fuel + 1 => scaleReal fuel (x / powerOfTen 308) (exponent + 308)

/-- A floating number from its sign, its decimal and its written exponent. -/
def Number.ofDecimal (negative : Bool) (d : Decimal) (exponent : Int) : Number :=
  let x := Float.ofNat d.significand
  let scaled :=
    if Nat.pow 2 31 ≤ exponent.natAbs then
      if 0 < exponent && d.significand ≠ 0 then none else some 0
    else scaleReal 3 x (d.exponent + exponent)
  match scaled with
  | none => .beyond
  | some x => .float (if negative then -x else x)

/-- A number without fraction and exponent.  One that does not fit in 64 bits is floating, and so
is a negative zero. -/
def Number.ofWhole (negative : Bool) (digits : List Char) : Number :=
  let n := digits.foldl (fun n c => n * 10 + digitValue c) 0
  if negative then
    if 0 < n ∧ n ≤ Nat.pow 2 63 then .int (-n)
    else Number.ofDecimal true (Decimal.pushWhole ⟨0, 0⟩ digits) 0
  else if n < UInt64.size then .int n
  else Number.ofDecimal false (Decimal.pushWhole ⟨0, 0⟩ digits) 0

/-- The exponent part of a number, if there is one, and the rest of the text. -/
def readExponent : List Char → Option (Option Int × List Char)
  | c :: rest =>
    if c = 'e' ∨ c = 'E' then
      let (negative, rest) := match rest with
        | '-' :: rest => (true, rest)
        | '+' :: rest => (false, rest)
        | rest => (false, rest)
      let digits := rest.takeWhile Char.isDigit
      if digits.isEmpty then none
      else
        let n : Int := digits.foldl (fun n c => n * 10 + digitValue c) 0
        some (some (if negative then -n else n), rest.dropWhile Char.isDigit)
    else some (none, c :: rest)
  | [] => some (none, [])

/-- A number at the start of a text, and the rest of the text. -/
def readNumber (text : List Char) : Option (Number × List Char) :=
  let (negative, text) := match text with
    | '-' :: rest => (true, rest)
    | text => (false, text)
  let whole := text.takeWhile Char.isDigit
  let rest := text.dropWhile Char.isDigit
  let leadingZero := match whole with
    | '0' :: _ :: _ => true
    | _ => false
  if whole.isEmpty || leadingZero then none
  else
    match rest with
    | '.' :: rest =>
      let fraction := rest.takeWhile Char.isDigit
      if fraction.isEmpty then none
      else
        (readExponent (rest.dropWhile Char.isDigit)).map fun (exponent, rest) =>
          let d := (Decimal.pushWhole ⟨0, 0⟩ whole).pushFraction fraction
          (Number.ofDecimal negative d (exponent.getD 0), rest)
    | rest =>
      (readExponent rest).map fun (exponent, rest) =>
        match exponent with
        | some exponent =>
          (Number.ofDecimal negative (Decimal.pushWhole ⟨0, 0⟩ whole) exponent, rest)
        | none => (Number.ofWhole negative whole, rest)

/-! ## Strings -/

/-- A part of a quoted text: a character, or the number written by a `u` escape. -/
inductive Piece where
  | char (c : Char)
  | unit (n : Nat)

/-- The value of a hexadecimal digit. -/
def hexValue? (c : Char) : Option Nat :=
  if '0' ≤ c ∧ c ≤ '9' then some (c.toNat - '0'.toNat)
  else if 'a' ≤ c ∧ c ≤ 'f' then some (c.toNat - 'a'.toNat + 10)
  else if 'A' ≤ c ∧ c ≤ 'F' then some (c.toNat - 'A'.toNat + 10)
  else none

/-- The character of a one-letter escape. -/
def unescape? (c : Char) : Option Char :=
  if c = '"' ∨ c = '\\' ∨ c = '/' then some c
  else if c = 'b' then some (Char.ofNat 8)
  else if c = 'f' then some (Char.ofNat 12)
  else if c = 'n' then some '\n'
  else if c = 'r' then some '\r'
  else if c = 't' then some '\t'
  else none

/-- The parts of a quoted text up to its closing quote, and what follows it. -/
def readPieces : List Char → Option (List Piece × List Char)
  | [] => none
  | '"' :: rest => some ([], rest)
  | '\\' :: 'u' :: a :: b :: c :: d :: rest => do
    let n := (← hexValue? a) * 4096 + (← hexValue? b) * 256 + (← hexValue? c) * 16 + (← hexValue? d)
    let (pieces, rest) ← readPieces rest
    pure (.unit n :: pieces, rest)
  | '\\' :: c :: rest => do
    let c ← unescape? c
    let (pieces, rest) ← readPieces rest
    pure (.char c :: pieces, rest)
  | c :: rest =>
    if c = '\\' ∨ c.toNat < 32 then none
    else do
      let (pieces, rest) ← readPieces rest
      pure (.char c :: pieces, rest)

/-- The characters of a quoted text.  A number from `D800` to `DBFF` must be followed by one from
`DC00` to `DFFF`; together they stand for one character, and neither stands alone. -/
def assemble : List Piece → Option (List Char)
  | [] => some []
  | .char c :: rest => (assemble rest).map (c :: ·)
  | .unit high :: .unit low :: rest =>
    if 0xD800 ≤ high ∧ high < 0xDC00 then
      if 0xDC00 ≤ low ∧ low < 0xE000 then
        (assemble rest).map (Char.ofNat (0x10000 + (high - 0xD800) * 0x400 + (low - 0xDC00)) :: ·)
      else none
    else if 0xDC00 ≤ high ∧ high < 0xE000 then none
    else (assemble (.unit low :: rest)).map (Char.ofNat high :: ·)
  | .unit n :: rest =>
    if 0xD800 ≤ n ∧ n < 0xE000 then none else (assemble rest).map (Char.ofNat n :: ·)

/-- A text after its opening quote, up to the closing one, and what follows it. -/
def readText (text : List Char) : Option (Option String × List Char) :=
  (readPieces text).map fun (pieces, rest) => ((assemble pieces).map String.ofList, rest)

/-! ## Values -/

/-- Drops the blanks that may stand between two tokens. -/
def skipBlanks (text : List Char) : List Char :=
  text.dropWhile (fun c => c = ' ' ∨ c = '\n' ∨ c = '\r' ∨ c = '\t')

mutual

/-- A value at the start of a text, and the rest of the text. -/
def readDocument : Nat → List Char → Option (Document × List Char)
  | 0, _ => none
  | fuel + 1, text =>
    match skipBlanks text with
    | 'n' :: 'u' :: 'l' :: 'l' :: rest => some (.null, rest)
    | 't' :: 'r' :: 'u' :: 'e' :: rest => some (.bool true, rest)
    | 'f' :: 'a' :: 'l' :: 's' :: 'e' :: rest => some (.bool false, rest)
    | '"' :: rest => (readText rest).map fun (text, rest) => (.string text, rest)
    | '[' :: rest =>
      match skipBlanks rest with
      | ']' :: rest => some (.array [], rest)
      | rest => (readItems fuel rest).map fun (items, rest) => (.array items, rest)
    | '\x7b' :: rest =>
      match skipBlanks rest with
      | '\x7d' :: rest => some (.object [], rest)
      | rest => (readMembers fuel rest).map fun (members, rest) => (.object members, rest)
    | text => (readNumber text).map fun (n, rest) => (.number n, rest)

/-- The elements of an array up to its closing bracket, and what follows it. -/
def readItems : Nat → List Char → Option (List Document × List Char)
  | 0, _ => none
  | fuel + 1, text => do
    let (item, rest) ← readDocument fuel text
    match skipBlanks rest with
    | ',' :: rest =>
      let (items, rest) ← readItems fuel rest
      pure (item :: items, rest)
    | ']' :: rest => pure ([item], rest)
    | _ => none

/-- The members of an object up to its closing brace, and what follows it. -/
def readMembers : Nat → List Char → Option (List (Option String × Document) × List Char)
  | 0, _ => none
  | fuel + 1, text =>
    match skipBlanks text with
    | '"' :: rest => do
      let (key, rest) ← readText rest
      match skipBlanks rest with
      | ':' :: rest =>
        let (value, rest) ← readDocument fuel rest
        match skipBlanks rest with
        | ',' :: rest =>
          let (members, rest) ← readMembers fuel rest
          pure ((key, value) :: members, rest)
        | '\x7d' :: rest => pure ([(key, value)], rest)
        | _ => none
      | _ => none
    | _ => none

end

/-- The document that a whole text holds. -/
def Document.parse (text : String) : Option Document :=
  match readDocument (2 * text.length + 2) text.toList with
  | some (document, rest) => if (skipBlanks rest).isEmpty then some document else none
  | none => none

end RelayMesh.Json
