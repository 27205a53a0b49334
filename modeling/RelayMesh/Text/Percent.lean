import RelayMesh.Text.Hex

/-!
# Bytes behind percent signs

In an address a percent sign and two hexadecimal digits stand for one byte.
`percentBytes` gives the bytes of a text, and `readPercent?` the text that
these bytes spell in UTF-8.  A percent sign that no two digits follow stands
for itself.
-/

namespace RelayMesh.Text

/-- The bytes of a text, where a percent sign and two hexadecimal digits are one byte. -/
def percentBytes : List Char → Payload
  | [] => []
  | '%' :: a :: b :: rest =>
    match nibble? a, nibble? b with
    | some high, some low => UInt8.ofNat (high * 16 + low) :: percentBytes rest
    | _, _ => String.utf8EncodeChar '%' ++ percentBytes (a :: b :: rest)
  | c :: rest => String.utf8EncodeChar c ++ percentBytes rest

/-- The text that the bytes of a text spell, if they spell one. -/
def readPercent? (text : List Char) : Option (List Char) :=
  (String.fromUTF8? (percentBytes text).toByteArray).map String.toList

end RelayMesh.Text
