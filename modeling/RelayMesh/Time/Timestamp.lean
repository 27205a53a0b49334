import RelayMesh.Text.Blank

/-!
# Points in time

A `Timestamp` counts seconds since the start of 1970 and nanoseconds within
the second; a leap second is the second before it with a billion or more
nanoseconds.  `Timestamp.parse` reads a relaxed form of RFC 3339: the parts
may have blanks between them and fewer digits, and `UTC` may stand for the
offset.  `Timestamp.text` writes the strict form in UTC with as few groups of
three decimal places as the nanoseconds need.
-/

namespace RelayMesh

/-- A point in time. -/
structure Timestamp where
  second : Int
  nano : Nat
deriving Repr, DecidableEq

/-- A calendar date of the Gregorian calendar. -/
structure Date where
  year : Int
  month : Nat
  day : Nat
deriving Repr, DecidableEq

namespace Date

/-- Whether a year has a 29th of February. -/
def isLeapYear (year : Int) : Bool :=
  year % 4 = 0 && (year % 100 ≠ 0 || year % 400 = 0)

/-- The number of days of a month. -/
def monthLength (year : Int) (month : Nat) : Nat :=
  if month = 2 then (if isLeapYear year then 29 else 28)
  else if month = 4 ∨ month = 6 ∨ month = 9 ∨ month = 11 then 30
  else 31

/-- Whether the date is in the calendar, which runs from year -262143 to year 262142. -/
def isValid (date : Date) : Bool :=
  -262143 ≤ date.year && date.year ≤ 262142 && 1 ≤ date.month && date.month ≤ 12 &&
    1 ≤ date.day && date.day ≤ monthLength date.year date.month

/-- The number of days since the start of 1970.  Years are counted from March, so that a leap day
is the last day of its year. -/
def dayNumber (date : Date) : Int :=
  let year := if date.month ≤ 2 then date.year - 1 else date.year
  let era := year / 400
  let yearOfEra := year % 400
  let month : Int := (date.month + 9) % 12
  let dayOfYear := (153 * month + 2) / 5 + date.day - 1
  let dayOfEra := yearOfEra * 365 + yearOfEra / 4 - yearOfEra / 100 + dayOfYear
  era * 146097 + dayOfEra - 719468

/-- The date of a number of days since the start of 1970. -/
def ofDayNumber (days : Int) : Date :=
  let shifted := days + 719468
  let era := shifted / 146097
  let dayOfEra := shifted % 146097
  let yearOfEra := (dayOfEra - dayOfEra / 1460 + dayOfEra / 36524 - dayOfEra / 146096) / 365
  let dayOfYear := dayOfEra - (365 * yearOfEra + yearOfEra / 4 - yearOfEra / 100)
  let shiftedMonth := (5 * dayOfYear + 2) / 153
  let day := dayOfYear - (153 * shiftedMonth + 2) / 5 + 1
  let month := if shiftedMonth < 10 then shiftedMonth + 3 else shiftedMonth - 9
  let year := yearOfEra + era * 400 + (if month ≤ 2 then 1 else 0)
  ⟨year, month.toNat, day.toNat⟩

end Date

namespace Timestamp

/-! ## Reading -/

/-- One to `width` digits after any blanks. -/
def readField (width : Nat) (text : List Char) : Option (Nat × List Char) :=
  let text := Text.trimStart text
  let digits := (text.take width).takeWhile Char.isDigit
  if digits.isEmpty then none
  else
    some (digits.foldl (fun n c => n * 10 + (c.toNat - '0'.toNat)) 0, text.drop digits.length)

/-- A field within bounds. -/
def readWithin (low high : Nat) (text : List Char) : Option (Nat × List Char) :=
  (readField 2 text).filter (fun field => low ≤ field.1 && field.1 ≤ high)

/-- A year: up to four digits, or any number of them after a sign. -/
def readYear (text : List Char) : Option (Int × List Char) :=
  match Text.trimStart text with
  | '-' :: rest =>
    if rest.head?.any Char.isDigit then
      (readField rest.length rest).map (fun field => (-(field.1 : Int), field.2))
    else none
  | '+' :: rest =>
    if rest.head?.any Char.isDigit then
      (readField rest.length rest).map (fun field => ((field.1 : Int), field.2))
    else none
  | text => (readField 4 text).map (fun field => ((field.1 : Int), field.2))

/-- A separator after any blanks. -/
def readMark (mark : Char) (text : List Char) : Option (List Char) :=
  match Text.trimStart text with
  | c :: rest => if c = mark then some rest else none
  | [] => none

/-- The nanoseconds after the point, if there is one; places after the ninth are dropped. -/
def readNano : List Char → Option (Nat × List Char)
  | '.' :: rest =>
    let places := rest.takeWhile Char.isDigit
    if places.isEmpty then none
    else
      let kept := places.take 9
      let n := kept.foldl (fun n c => n * 10 + (c.toNat - '0'.toNat)) 0
      some (n * Nat.pow 10 (9 - kept.length), rest.dropWhile Char.isDigit)
  | text => some (0, text)

/-- Exactly two digits. -/
def readPair : List Char → Option (Nat × List Char)
  | a :: b :: rest =>
    if a.isDigit && b.isDigit then
      some ((a.toNat - '0'.toNat) * 10 + (b.toNat - '0'.toNat), rest)
    else none
  | _ => none

/-- An offset from UTC in seconds, less than a day either way. -/
def readOffset (text : List Char) : Option (Int × List Char) :=
  match text with
  | c :: rest =>
    if c = 'Z' ∨ c = 'z' then some (0, rest)
    else if ((text.take 3).map Char.toLower) = ['u', 't', 'c'] then some (0, text.drop 3)
    else if c = '+' ∨ c = '-' ∨ c = '−' then do
      let (hours, rest) ← readPair rest
      let (minutes, rest) ← readPair (rest.dropWhile (fun c => c = ':' || Text.isBlank c))
      if 60 ≤ minutes ∨ 24 ≤ hours then none
      else
        let seconds : Int := hours * 3600 + minutes * 60
        some (if c = '+' then seconds else -seconds, rest)
    else none
  | [] => none

/-- The timestamp that a text describes; its date has to be in the calendar as written and in
UTC. -/
def parse (text : String) : Option Timestamp := do
  let (year, rest) ← readYear text.toList
  let (month, rest) ← readWithin 1 12 (← readMark '-' rest)
  let (day, rest) ← readWithin 1 31 (← readMark '-' rest)
  let rest ← match rest with
    | c :: rest => if c = 'T' ∨ c = 't' ∨ c = ' ' then some rest else none
    | [] => none
  let (hour, rest) ← readWithin 0 23 rest
  let (minute, rest) ← readWithin 0 59 (← readMark ':' rest)
  let (second, rest) ← readWithin 0 60 (← readMark ':' rest)
  let (nano, rest) ← readNano rest
  let (offset, rest) ← readOffset (Text.trimStart rest)
  let date : Date := ⟨year, month, day⟩
  let leap := second = 60
  let ofDay : Int := hour * 3600 + minute * 60 + (if leap then 59 else second)
  let total := date.dayNumber * 86400 + ofDay - offset
  if date.isValid && (Date.ofDayNumber (total / 86400)).isValid && (Text.trimStart rest).isEmpty then
    some ⟨total, if leap then nano + 1000000000 else nano⟩
  else none

/-! ## Writing -/

/-- A number with leading zeros. -/
def padded (width : Nat) (n : Nat) : String :=
  let digits := toString n
  String.ofList (List.replicate (width - digits.length) '0') ++ digits

/-- A year: four digits, and a sign where they do not suffice. -/
def yearText (year : Int) : String :=
  if 0 ≤ year ∧ year ≤ 9999 then padded 4 year.natAbs
  else (if year < 0 then "-" else "+") ++ padded 4 year.natAbs

/-- The decimal places of the second. -/
def nanoText (nano : Nat) : String :=
  if nano = 0 then ""
  else if nano % 1000000 = 0 then "." ++ padded 3 (nano / 1000000)
  else if nano % 1000 = 0 then "." ++ padded 6 (nano / 1000)
  else "." ++ padded 9 nano

/-- The text of a timestamp, in UTC. -/
def text (t : Timestamp) : String :=
  let date := Date.ofDayNumber (t.second / 86400)
  let ofDay := (t.second % 86400).toNat
  let leap := 1000000000 ≤ t.nano
  let second := ofDay % 60 + (if leap then 1 else 0)
  yearText date.year ++ "-" ++ padded 2 date.month ++ "-" ++ padded 2 date.day ++ "T" ++
    padded 2 (ofDay / 3600) ++ ":" ++ padded 2 (ofDay / 60 % 60) ++ ":" ++ padded 2 second ++
    nanoText (if leap then t.nano - 1000000000 else t.nano) ++ "Z"

end Timestamp

end RelayMesh
