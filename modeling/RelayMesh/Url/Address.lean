import RelayMesh.Text.Blank
import RelayMesh.Text.Hex
import RelayMesh.Text.Numeral

/-!
# Addresses of hosts

The two written forms of the address of a host: four decimal numbers between
points, and eight groups of hexadecimal digits between colons.  In the second
form two colons may stand, once, for one or more groups of zeros, and the last
two groups may be written in the first form.
-/

namespace RelayMesh.Address

open Text

/-- Whether a text is a number of an address: up to 255 without leading zeros. -/
def isOctet (text : List Char) : Bool :=
  match text with
  | '0' :: _ :: _ => false
  | _ => (readDigits text).any (· < 256)

/-- Whether a text is an address of four numbers. -/
def isQuad (text : List Char) : Bool :=
  let parts := splitOn '.' text
  parts.length = 4 && parts.all isOctet

/-- Whether a text is a group of an address: one to four hexadecimal digits. -/
def isGroup (text : List Char) : Bool :=
  !text.isEmpty && text.length ≤ 4 && text.all (fun c => (nibble? c).isSome)

/-- The number of groups that some parts stand for, where the last one may be an address of four
numbers. -/
def groupCount? : List (List Char) → Option Nat
  | [] => some 0
  | [last] => if isGroup last then some 1 else if isQuad last then some 2 else none
  | part :: rest => if isGroup part then (groupCount? rest).map (· + 1) else none

/-- The texts before and after the first two colons that follow each other. -/
def gap? : List Char → Option (List Char × List Char)
  | [] => none
  | ':' :: ':' :: rest => some ([], rest)
  | c :: rest => (gap? rest).map (fun (before, after) => (c :: before, after))

/-- The parts of a text between colons; an empty text has none. -/
def parts (text : List Char) : List (List Char) :=
  if text.isEmpty then [] else splitOn ':' text

/-- Whether a text is an address of eight groups. -/
def isGrouped (text : List Char) : Bool :=
  match gap? text with
  | none => groupCount? (parts text) = some 8
  | some (before, after) =>
    (parts before).all isGroup &&
      (groupCount? (parts after)).any (fun count => (parts before).length + count ≤ 7)

end RelayMesh.Address
