import RelayMesh.Text.Hidden

/-!
# Quoted texts in descriptions

`quoted` shows a text between quotes so that every character can be seen:
quotes and backslashes are escaped, and a character without a shape of its own
is written by its number.
-/

namespace RelayMesh.Text

/-- A number in lower-case hexadecimal digits. -/
def hex (n : Nat) : List Char :=
  Nat.toDigits 16 n

/-- One character of a quoted text. -/
def quotedChar (c : Char) : List Char :=
  if c = '\\' then ['\\', '\\']
  else if c = '"' then ['\\', '"']
  else if c = '\n' then ['\\', 'n']
  else if c = '\r' then ['\\', 'r']
  else if c = '\t' then ['\\', 't']
  else if c.toNat = 0 then ['\\', '0']
  else if isHidden c then ['\\', 'u', '\x7b'] ++ hex c.toNat ++ ['\x7d']
  else [c]

/-- A text between quotes. -/
def quoted (text : String) : String :=
  String.ofList ('"' :: text.toList.flatMap quotedChar ++ ['"'])

end RelayMesh.Text
