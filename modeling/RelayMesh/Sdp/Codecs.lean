import RelayMesh.Codec.Matching
import RelayMesh.Sdp.Basic

/-!
# Codecs in a media section

A section lists payload types as its formats, and its attributes say what
each of them stands for: `rtpmap` names a codec with its clock rate and
perhaps the number of channels, `fmtp` gives parameters, and `rtcp-fb` names
a kind of feedback.  What several attributes say about one payload type is
put together in a `Mapping`; where two of them differ, the first one counts.
-/

namespace RelayMesh.Sdp

open Text

/-- What a payload type stands for; what is not said is empty or zero. -/
structure Mapping where
  name : List Char := []
  clockRate : Nat := 0
  channels : List Char := []
  parameters : List Char := []
deriving Repr, DecidableEq

namespace Mapping

/-- Adds what is said elsewhere. -/
def merge (first second : Mapping) : Mapping where
  name := if first.name.isEmpty then second.name else first.name
  clockRate := if first.clockRate = 0 then second.clockRate else first.clockRate
  channels := if first.channels.isEmpty then second.channels else first.channels
  parameters := if first.parameters.isEmpty then second.parameters else first.parameters

/-- The mapping of a name, a clock rate and a number of channels, with slashes between. -/
def ofEncoding? (encoding : List Char) : Option Mapping :=
  match splitOn '/' encoding with
  | name :: rate :: rest =>
    (readNatural UInt32.size rate).map (fun clockRate =>
      { name, clockRate, channels := rest.headD [] })
  | _ => some { name := encoding }

/-- The codec of a payload type in a section about some medium. -/
def codec (mapping : Mapping) (medium : String) (payloadType : Nat) : CodecParameters where
  mimeType := medium ++ "/" ++ String.ofList mapping.name
  clockRate := mapping.clockRate
  channels := (readNatural 65536 mapping.channels).getD 0
  formatLine := String.ofList mapping.parameters
  payloadType := payloadType

end Mapping

/-- The payload type that a text gives. -/
def readPayloadType (text : List Char) : Option Nat :=
  readNatural 256 text

/-- A payload type and what follows it, as the only two words of a text. -/
def readPair (text : List Char) : Option (Nat × List Char) :=
  match text.head?.any isBlank, words text with
  | false, [payloadType, rest] => (readPayloadType payloadType).map (fun n => (n, rest))
  | _, _ => none

/-- The payload type that an attribute is about and what it says; `none` for an attribute that is
about none or cannot be read. -/
def readMapping (entry : Attribute) : Option (Nat × Mapping) := do
  let text := (← entry.value).toList
  match entry.name with
  | "rtpmap" =>
    let (payloadType, encoding) ← readPair text
    pure (payloadType, ← Mapping.ofEncoding? encoding)
  | "fmtp" =>
    let (payloadType, parameters) ← readPair text
    pure (payloadType, { parameters })
  | "rtcp-fb" =>
    let written := text.takeWhile (· ≠ ' ')
    guard (written.length < text.length)
    pure (← readPayloadType written, {})
  | _ => none

namespace Section

/-- What the attributes of a section say about a payload type. -/
def mapping? (part : Section) (payloadType : Nat) : Option Mapping :=
  match (part.attributes.filterMap readMapping).filter (fun entry => entry.1 = payloadType) with
  | [] => none
  | first :: rest => some (rest.foldl (fun mapping entry => mapping.merge entry.2) first.2)

/-- The codecs of a section.  Every format is a payload type that stands for something, except that
payload type 0 may be left unexplained. -/
def codecs? (part : Section) : Option (List CodecParameters) := do
  let codecs ← part.formats.mapM (fun format => do
    let payloadType ← readPayloadType format.toList
    match part.mapping? payloadType with
    | some mapping => some [mapping.codec part.medium payloadType]
    | none => if payloadType = 0 then some [] else none)
  pure codecs.flatten

/-- The names of the directions in which media may flow. -/
def directions : List String := ["sendrecv", "sendonly", "recvonly", "inactive"]

/-- Whether an attribute names a header extension: its number, perhaps with a direction, and its
address. -/
def isExtension (entry : Attribute) : Bool :=
  match (entry.value.map (fun value => words value.toList)).getD [] with
  | number :: address :: _ =>
    (match splitOn '/' number with
      | [n, direction] => isIdentifier n && isOneOf directions direction
      | n :: _ => isIdentifier n
      | [] => false) && (Url.read? address).isSome
  | _ => false
where
  /-- Whether a text is a number that an extension may have. -/
  isIdentifier (text : List Char) : Bool :=
    (readNatural 247 text).any (fun n => 1 ≤ n)

/-- Whether all header extensions of a section can be read. -/
def hasReadableExtensions (part : Section) : Bool :=
  (part.attributes.filter (fun entry => entry.name = "extmap")).all isExtension

end Section

end RelayMesh.Sdp
