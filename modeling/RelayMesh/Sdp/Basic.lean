import RelayMesh.Sdp.Line

/-!
# Session descriptions

A session description says something about a session as a whole and, in media
sections, about each of its media.  Of either this library keeps the
attributes, and of a section also its opening.

`Sdp.read?` reads a text, whose lines have to come in a fixed order:
`followers` lists the lines that may stand after a given one.  `Sdp.render`
writes a description.
-/

namespace RelayMesh

namespace Sdp

/-- An attribute: a name and perhaps a value. -/
structure Attribute where
  name : String
  value : Option String := none
deriving Repr, DecidableEq

/-- A media section. -/
structure Section where
  medium : String
  port : String
  protocol : String
  formats : List String
  attributes : List Attribute := []
deriving Repr, DecidableEq

end Sdp

/-- A session description. -/
structure Sdp where
  attributes : List Sdp.Attribute := []
  sections : List Sdp.Section := []
deriving Repr, DecidableEq

namespace Sdp

open Text

/-! ## Attributes -/

/-- The value of the first attribute of a name, if it has one. -/
def value? (attributes : List Attribute) (name : String) : Option String :=
  (attributes.find? (fun entry => entry.name = name)).bind Attribute.value

/-- The values that the session and its sections give to a name, the one of the session first. -/
def values (description : Sdp) (name : String) : List String :=
  (value? description.attributes name).toList ++
    description.sections.filterMap (fun part => value? part.attributes name)

/-! ## Reading -/

/-- The letters of the lines that may follow a line; a description starts with its version. -/
def followers : Option Char → List Char
  | none => ['v']
  | some 'v' => ['o']
  | some 'o' => ['s']
  | some 's' => ['i', 'u', 'e', 'p', 'c', 'b', 't']
  | some 'i' => ['u', 'e', 'p', 'c', 'b', 't']
  | some 'u' => ['e', 'p', 'c', 'b', 't']
  | some 'e' => ['p', 'c', 'b', 't']
  | some 'p' => ['c', 'b', 't']
  | some 'c' | some 'b' => ['b', 't']
  | some 't' | some 'r' => ['t', 'r', 'z', 'k', 'a', 'm']
  | some 'z' => ['k', 'a', 'm']
  | some 'k' | some 'a' => ['a', 'm']
  | some _ => []

/-- Whether some lines may stand after a given one and before a media section or the end, which
come only after the times of the session. -/
def inOrder (last : Option Char) : List Line → Bool
  | [] => (followers last).contains 'm'
  | line :: rest => (followers last).contains line.key && inOrder (some line.key) rest

/-- The letters of the lines of a media section, which come in any order. -/
def sectionKeys : List Char := ['a', 'k', 'b', 'c', 'i']

/-- The lines before the first media section, and the openings of the sections with the lines
after each. -/
def split : List Line → List Line × List (Line × List Line)
  | [] => ([], [])
  | line :: rest =>
    let (lines, sections) := split rest
    if line.key = 'm' then ([], (line, lines) :: sections) else (line :: lines, sections)

/-- An attribute as it is written. -/
def readAttribute (value : List Char) : Attribute :=
  { name := String.ofList (value.takeWhile (· ≠ ':'))
    value :=
      match value.dropWhile (· ≠ ':') with
      | _ :: rest => some (String.ofList rest)
      | [] => none }

/-- The attributes among some lines. -/
def attributesOf (lines : List Line) : List Attribute :=
  (lines.filter (fun line => line.key = 'a')).map (fun line => readAttribute line.value)

/-- The section of an opening and the lines after it. -/
def readSection (opening : Line) (lines : List Line) : Option Section :=
  match (words opening.value).map String.ofList with
  | medium :: port :: protocol :: formats =>
    if lines.all (fun line => sectionKeys.contains line.key) then
      some { medium, port, protocol, formats, attributes := attributesOf lines }
    else none
  | _ => none

/-- The description that a text holds. -/
def read? (text : String) : Option Sdp := do
  let lines ← readLines text.toList
  let (session, parts) := split lines
  guard (inOrder none session && lines.all Line.isWellFormed)
  let sections ← parts.mapM (fun part => readSection part.1 part.2)
  pure { attributes := attributesOf session, sections }

/-! ## Writing -/

/-- A line as it is written. -/
def line (key : Char) (value : String) : String :=
  key.toString ++ "=" ++ value ++ "\r\n"

/-- An attribute as it is written. -/
def Attribute.render (entry : Attribute) : String :=
  line 'a' (entry.name ++ (match entry.value with
    | some value => ":" ++ value
    | none => ""))

/-- A section as it is written. -/
def Section.render (part : Section) : String :=
  line 'm' (" ".intercalate ([part.medium, part.port, part.protocol] ++ part.formats)) ++
    line 'c' "IN IP4 0.0.0.0" ++ String.join (part.attributes.map Attribute.render)

/-- A description as it is written. -/
def render (description : Sdp) : String :=
  line 'v' "0" ++ line 'o' "- 0 0 IN IP4 0.0.0.0" ++ line 's' "-" ++ line 't' "0 0" ++
    String.join (description.attributes.map Attribute.render) ++
    String.join (description.sections.map Section.render)

end Sdp

end RelayMesh
