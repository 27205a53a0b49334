import RelayMesh.Text.Blank

/-!
# Characters written as ASCII

The name of a host with characters beyond ASCII is written in letters, digits
and hyphens: first its characters of ASCII, then, after a hyphen where there
are any, numbers that say which characters to insert and where.
`Punycode.read?` gives the text of such a written form.

A number is written with its least digit first and in 36 digits, the letters
before the numerals.  A digit below the `threshold` of its position ends the
number, and `adapt` sets the thresholds of a number by the size of the one
before it.  Each number counts the steps from the last insertion to the next
one, through all positions of the text for a character before it turns to the
character that follows.
-/

namespace RelayMesh.Url.Punycode

open Text

/-- The value of a digit: 0 to 25 for letters, 26 to 35 for numerals. -/
def digit? (c : Char) : Option Nat :=
  let c := c.toLower
  if 'a' ≤ c ∧ c ≤ 'z' then some (c.toNat - 'a'.toNat)
  else if c.isDigit then some (c.toNat - '0'.toNat + 26)
  else none

/-- The least digit that does not end a number, at a position that counts in steps of 36. -/
def threshold (position bias : Nat) : Nat :=
  min (max (position - bias) 1) 26

/-- Divides by 35 while the result is above 455; the second number is 36 for every division. -/
def shrink (size : Nat) : Nat × Nat :=
  if size ≤ 455 then (size, 0)
  else
    let (rest, scale) := shrink (size / 35)
    (rest, scale + 36)
termination_by size
decreasing_by omega

/-- The bias after a number, where `count` is the length of the text with its insertion. -/
def adapt (number count : Nat) (isFirst : Bool) : Nat :=
  let size := number / (if isFirst then 700 else 2)
  let (size, scale) := shrink (size + size / count)
  scale + 36 * size / (size + 38)

/-- What has been read: the text, where the last insertion ended and which character it was, and
of the number that is being read its value, the weight of its next digit and the position of
that digit. -/
structure Progress where
  text : List Char
  place : Nat := 0
  code : Nat := 128
  bias : Nat := 72
  number : Nat := 0
  weight : Nat := 1
  position : Nat := 36
deriving Repr, DecidableEq

namespace Progress

/-- Whether all numbers have been read to their ends. -/
def isBetweenNumbers (progress : Progress) : Bool :=
  progress.position = 36

/-- Inserts what a number says. -/
def insert? (progress : Progress) (number : Nat) : Option Progress :=
  let count := progress.text.length + 1
  let steps := progress.place + number
  let code := progress.code + steps / count
  if code.isValidChar then
    some {
      text := progress.text.insertIdx (steps % count) (Char.ofNat code)
      place := steps % count + 1
      code
      bias := adapt number count (progress.place = 0) }
  else none

/-- Reads a digit; numbers are below 2 ^ 32. -/
def step? (progress : Progress) (c : Char) : Option Progress := do
  let digit ← digit? c
  let number := progress.number + digit * progress.weight
  guard (number < UInt32.size)
  let least := threshold progress.position progress.bias
  if digit < least then progress.insert? number
  else
    pure { progress with
      number
      weight := progress.weight * (36 - least)
      position := progress.position + 36 }

end Progress

/-- The text of a written form, which is without its `xn--`. -/
def read? (written : List Char) : Option (List Char) := do
  let afterHyphen := (splitOn '-' written).getLast?.getD []
  let basic := written.take (written.length - afterHyphen.length - 1)
  let digits := if basic.isEmpty then written else afterHyphen
  let progress ← digits.foldlM Progress.step? { text := basic }
  if progress.isBetweenNumbers then some progress.text else none

end RelayMesh.Url.Punycode
