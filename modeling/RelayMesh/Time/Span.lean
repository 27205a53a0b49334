/-!
# Spans of time

A `Span` counts nanoseconds.  Its text uses the largest unit of seconds,
milliseconds, microseconds and nanoseconds that is at least one, with as many
decimal places as the span needs.
-/

namespace RelayMesh

/-- A length of time in nanoseconds. -/
abbrev Span := Nat

namespace Span

/-- A span of whole milliseconds. -/
def ofMillis (n : Nat) : Span :=
  n * 1000000

/-- A span of whole seconds. -/
def ofSeconds (n : Nat) : Span :=
  n * 1000000000

/-- The number of whole milliseconds. -/
def millis (span : Span) : Nat :=
  span / 1000000

/-- The number of whole seconds. -/
def seconds (span : Span) : Nat :=
  span / 1000000000

/-- The decimal places of `part / 10 ^ width` without trailing zeros, after a point if any. -/
def fraction (part width : Nat) : List Char :=
  let digits := (toString part).toList
  let padded := List.replicate (width - digits.length) '0' ++ digits
  let places := (padded.reverse.dropWhile (· = '0')).reverse
  if places.isEmpty then [] else '.' :: places

/-- A span in one unit, which is `10 ^ width` nanoseconds. -/
def inUnit (span : Span) (width : Nat) (unit : String) : String :=
  let unitSize := Nat.pow 10 width
  toString (span / unitSize) ++ String.ofList (fraction (span % unitSize) width) ++ unit

/-- The text of a span. -/
def text (span : Span) : String :=
  if 1000000000 ≤ span then inUnit span 9 "s"
  else if 1000000 ≤ span then inUnit span 6 "ms"
  else if 1000 ≤ span then inUnit span 3 "µs"
  else toString span ++ "ns"

end Span

end RelayMesh
