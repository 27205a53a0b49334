/-!
# Numbers in settings and descriptions

`readNatural` reads an unsigned number of bounded size: decimal digits, with
an optional plus sign.  `readInteger` reads a signed number of some width.
`readReal` reads a decimal number in fixed or scientific notation, rounded to
the nearest `Float`, or one of the words for infinity and for an undefined
number.
-/

namespace RelayMesh.Text

/-- The value of a list of decimal digits, most significant first. -/
def digitsValue (digits : List Char) : Nat :=
  digits.foldl (fun value c => value * 10 + (c.toNat - '0'.toNat)) 0

/-- A nonempty list of decimal digits, as a number. -/
def readDigits (text : List Char) : Option Nat :=
  if !text.isEmpty && text.all Char.isDigit then some (digitsValue text) else none

/-- A decimal number below `bound`, with an optional plus sign. -/
def readNatural (bound : Nat) (text : List Char) : Option Nat :=
  let digits := match text with
    | '+' :: rest => rest
    | _ => text
  (readDigits digits).filter (· < bound)

/-- Whether a number is a signed number of a width in bits. -/
def fitsSigned (bits : Nat) (n : Int) : Bool :=
  let limit : Int := Nat.pow 2 (bits - 1)
  n < limit && -limit ≤ n

/-- A decimal number with an optional sign, as a signed number of a width in bits. -/
def readInteger (bits : Nat) (text : List Char) : Option Int :=
  let number : Option Int := match text with
    | '-' :: digits => (readDigits digits).map (fun n => -(n : Int))
    | '+' :: digits => (readDigits digits).map Int.ofNat
    | digits => (readDigits digits).map Int.ofNat
  number.filter (fitsSigned bits)

/-- The number `mantissa · 10 ^ exponent`, rounded to the nearest `Float`. -/
def scaled (mantissa : Nat) (exponent : Int) : Float :=
  let magnitude := (toString mantissa).length + exponent
  if mantissa = 0 || magnitude < -400 then 0
  else if 400 < magnitude then Float.ofScientific 1 false 400
  else if exponent < 0 then Float.ofScientific mantissa true exponent.natAbs
  else Float.ofScientific mantissa false exponent.natAbs

/-- The exponent part of a number: empty, or an `e`, an optional sign and digits. -/
def readExponent : List Char → Option Int
  | [] => some 0
  | c :: rest =>
    if c = 'e' ∨ c = 'E' then
      match rest with
      | '-' :: digits => (readDigits digits).map (fun n => -(n : Int))
      | '+' :: digits => (readDigits digits).map Int.ofNat
      | digits => (readDigits digits).map Int.ofNat
    else none

/-- A decimal number without sign. -/
def readMagnitude (text : List Char) : Option Float :=
  let word := text.map Char.toLower
  if word = ['i', 'n', 'f'] ∨ word = ['i', 'n', 'f', 'i', 'n', 'i', 't', 'y'] then some (1 / 0)
  else if word = ['n', 'a', 'n'] then some (0 / 0)
  else
    let whole := text.takeWhile Char.isDigit
    let rest := text.dropWhile Char.isDigit
    let (fraction, rest) := match rest with
      | '.' :: rest => (rest.takeWhile Char.isDigit, rest.dropWhile Char.isDigit)
      | rest => ([], rest)
    if whole.isEmpty && fraction.isEmpty then none
    else
      (readExponent rest).map (fun exponent =>
        scaled (digitsValue (whole ++ fraction)) (exponent - fraction.length))

/-- A decimal number with an optional sign. -/
def readReal : List Char → Option Float
  | '-' :: text => (readMagnitude text).map (fun x => -x)
  | '+' :: text => readMagnitude text
  | text => readMagnitude text

end RelayMesh.Text
