import RelayMesh.Codec.Reframing

/-!
# Bytes in hexadecimal digits

`hexOfBytes` writes two lower-case digits per byte, and `bytesOfHex?` reads
them in either case.
-/

namespace RelayMesh.Text

/-- A number in lower-case hexadecimal digits, with leading zeros up to a width. -/
def hexPadded (width n : Nat) : List Char :=
  let digits := Nat.toDigits 16 n
  List.replicate (width - digits.length) '0' ++ digits

/-- The digits of some bytes. -/
def hexOfBytes (bytes : Payload) : String :=
  String.ofList (bytes.flatMap (fun byte => hexPadded 2 byte.toNat))

/-- The value of a hexadecimal digit. -/
def nibble? (c : Char) : Option Nat :=
  let c := c.toLower
  if c.isDigit then some (c.toNat - '0'.toNat)
  else if 'a' ≤ c ∧ c ≤ 'f' then some (c.toNat - 'a'.toNat + 10)
  else none

/-- The bytes of some digits, whose number must be even. -/
def bytesOfHex? : List Char → Option Payload
  | [] => some []
  | [_] => none
  | a :: b :: rest => do
    let high ← nibble? a
    let low ← nibble? b
    pure (UInt8.ofNat (high * 16 + low) :: (← bytesOfHex? rest))

end RelayMesh.Text
