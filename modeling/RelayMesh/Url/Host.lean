import RelayMesh.Text.Hidden
import RelayMesh.Text.Percent
import RelayMesh.Url.Address
import RelayMesh.Url.Excluded
import RelayMesh.Url.Punycode

/-!
# Hosts in addresses

A host is a name, an address of four bytes or, in brackets, an address of
eight groups.  There are two ways to write it:

* `Host.readPlain?` takes the text as it stands, and every name is a name;
* `Host.readDomain?` is for schemes whose hosts are domains: bytes may stand
  behind percent signs, a name is brought to one form (`folded`), its labels
  have to be readable (`isLabel`), and a name that ends in a number has to be
  an address of four bytes.

Such an address may leave out points: its last number then fills the bytes
that are left.  Each number is decimal, octal after a zero or hexadecimal after
`0x`.
-/

namespace RelayMesh.Url

open Text

/-- Where an address leads. -/
inductive Host where
  | name (text : String)
  /-- An address of four bytes, as a number of 32 bits. -/
  | bytes (value : Nat)
  /-- An address of eight groups, as it was written. -/
  | groups (text : String)
deriving Repr, DecidableEq

/-! ## Names -/

/-- The characters that no host has. -/
def reserved : List Char :=
  ['\x00', '\t', '\n', '\r', ' ', '#', '/', ':', '<', '>', '?', '@', '[', '\\', ']', '^', '|']

/-- Whether no domain has a character: control characters and percent signs are out too. -/
def isReservedInDomain (c : Char) : Bool :=
  c.toNat < 0x20 || c.toNat = 0x7f || c = '%' || reserved.contains c

/-- The one form of a character: letters of ASCII in lower case, the full stops of other scripts as
points, and the wide forms of ASCII as ASCII. -/
def foldChar (c : Char) : Char :=
  if c = '\u3002' ∨ c = '\uff61' then '.'
  else if '\uff01' ≤ c ∧ c ≤ '\uff5e' then (Char.ofNat (c.toNat - 0xfee0)).toLower
  else c.toLower

/-- The one form of a name, without the characters that do not count. -/
def folded (name : List Char) : List Char :=
  (name.filter (fun c => !isIgnored c)).map foldChar

/-- Whether the characters of a label may stand in a name; a mark cannot be the first one. -/
def hasReadableChars (label : List Char) : Bool :=
  !label.any isExcluded && !label.head?.any isHidden

/-- Whether a folded text is a label: one that starts with `xn--` has to be the written form of a
folded text beyond ASCII. -/
def isLabel (label : List Char) : Bool :=
  if "xn--".toList.isPrefixOf label then
    (Punycode.read? (label.drop 4)).any (fun text =>
      text.any (fun c => 0x80 ≤ c.toNat) && folded text = text && hasReadableChars text)
  else hasReadableChars label

/-! ## Addresses of four bytes -/

/-- The value of digits to a base, most significant first. -/
def valueInBase (base : Nat) (digits : List Nat) : Nat :=
  digits.foldl (fun value digit => value * base + digit) 0

/-- The number of a text in a base up to 16; nothing at all is zero. -/
def readInBase (base : Nat) (text : List Char) : Option Nat :=
  (text.mapM (fun c => (nibble? c).filter (· < base))).map (valueInBase base)

/-- A number of an address: decimal, octal after a zero, or hexadecimal after `0x`. -/
def readPart? : List Char → Option Nat
  | [] => none
  | '0' :: 'x' :: digits => readInBase 16 digits
  | ['0'] => some 0
  | '0' :: digits => readInBase 8 digits
  | digits => readInBase 10 digits

/-- The parts of a name between points; a point at the end has no part after it. -/
def nameParts (name : List Char) : List (List Char) :=
  let parts := splitOn '.' name
  if 1 < parts.length ∧ parts.getLast? = some [] then parts.dropLast else parts

/-- Whether a name has to be an address of four bytes: it ends in a number, or in digits. -/
def endsInNumber (name : List Char) : Bool :=
  (nameParts name).getLast?.any (fun part =>
    (!part.isEmpty && part.all Char.isDigit) || (readPart? part).isSome)

/-- The address of four bytes that some numbers give: all but the last are bytes, and the last one
fills the bytes that are left. -/
def ofParts? : List Nat → Nat → Option Nat
  | [], _ => none
  | [last], space => if last < space then some last else none
  | byte :: rest, space =>
    if byte < 256 ∧ 256 < space then
      (ofParts? rest (space / 256)).map (byte * (space / 256) + ·)
    else none

/-- The address of four bytes that a name gives. -/
def readBytes? (name : List Char) : Option Nat := do
  ofParts? (← (nameParts name).mapM readPart?) UInt32.size

/-! ## Hosts -/

namespace Host

/-- The address of eight groups in brackets; the first bracket has been read. -/
def readGroups? (text : List Char) : Option Host :=
  if text.getLast? = some ']' ∧ Address.isGrouped text.dropLast then
    some (groups (String.ofList text.dropLast))
  else none

/-- The host of a text that is taken as it stands. -/
def readPlain? : List Char → Option Host
  | [] => none
  | '[' :: rest => readGroups? rest
  | text => if text.any reserved.contains then none else some (name (String.ofList text))

/-- The host of a text that gives a domain. -/
def readDomain? : List Char → Option Host
  | '[' :: rest => readGroups? rest
  | text => do
    let domain := folded (← readPercent? text)
    guard (!domain.isEmpty && !domain.any isReservedInDomain &&
      (splitOn '.' domain).all isLabel)
    if endsInNumber domain then (readBytes? domain).map bytes
    else pure (name (String.ofList domain))

end Host

end RelayMesh.Url
