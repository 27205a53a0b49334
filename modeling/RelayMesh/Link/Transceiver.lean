import RelayMesh.Codec.Matching
import RelayMesh.Sdp.Basic

/-!
# Transceivers

A transceiver is one of the paths of a connection: it carries one kind of
media, in one direction or in both, and may have a track of this side.  Its
identifier `mid` names the media section that belongs to it, on both sides.

`Transceiver.section?` is what a description says about a transceiver.
-/

namespace RelayMesh

/-- The directions in which media flow, as one side sees it. -/
structure Direction where
  sends : Bool
  receives : Bool
deriving Repr, DecidableEq

namespace Direction

/-- Both directions. -/
def both : Direction := ⟨true, true⟩

/-- The directions. -/
def all : List Direction := [both, ⟨true, false⟩, ⟨false, true⟩, ⟨false, false⟩]

/-- The name of a direction. -/
def name : Direction → String
  | ⟨true, true⟩ => "sendrecv"
  | ⟨true, false⟩ => "sendonly"
  | ⟨false, true⟩ => "recvonly"
  | ⟨false, false⟩ => "inactive"

/-- The direction that the attributes of a media section name first. -/
def ofSection? (part : Sdp.Section) : Option Direction :=
  part.attributes.findSome? (fun entry => all.find? (fun direction => direction.name = entry.name))

/-- The directions that a transceiver of this side may have to be given to a section of the other
side, the best first. -/
def partners : Direction → List Direction
  | ⟨true, true⟩ => [⟨false, true⟩, both, ⟨true, false⟩]
  | ⟨true, false⟩ => [⟨false, true⟩, both]
  | ⟨false, true⟩ => [⟨true, false⟩, both]
  | ⟨false, false⟩ => []

/-- The direction of a transceiver that is made for a section of the other side. -/
def answering (remote : Direction) : Direction :=
  if remote = ⟨false, true⟩ then ⟨true, false⟩ else ⟨false, true⟩

end Direction

/-- A track of this side: its codec, its name and the stream that it belongs to. -/
structure Track where
  codec : CodecKind
  name : String
  stream : String
deriving Repr, DecidableEq

/-- A path for one kind of media. -/
structure Transceiver where
  kind : MediaKind
  direction : Direction
  mid : Option String := none
  track : Option Track := none
  /-- Whether a description of this side has told the other side of it. -/
  announced : Bool := false
  /-- Whether the track is being sent. -/
  sending : Bool := false
deriving Repr, DecidableEq

namespace Transceiver

/-- Whether the transceiver can take a track. -/
def isFree (transceiver : Transceiver) : Bool :=
  transceiver.track.isNone && !transceiver.sending

/-- The transceiver with a track. -/
def withTrack (transceiver : Transceiver) (track : Track) : Transceiver :=
  { transceiver with
    track := some track
    direction := { transceiver.direction with sends := true } }

/-- The transceiver for a section; an identifier that it has stays. -/
def withMid (transceiver : Transceiver) (mid : String) : Transceiver :=
  { transceiver with mid := some (transceiver.mid.getD mid) }

/-! ## Its media section -/

/-- The protocol of media sections. -/
def protocol : String := "UDP/TLS/RTP/SAVPF"

/-- What a section says about a codec. -/
def codecAttributes (codec : CodecParameters) : List Sdp.Attribute :=
  let start := toString codec.payloadType ++ " "
  let encoding := String.ofList ((codec.mimeType.toList.dropWhile (· ≠ '/')).drop 1)
  let channels := if codec.channels = 0 then "" else "/" ++ toString codec.channels
  ⟨"rtpmap", some (start ++ encoding ++ "/" ++ toString codec.clockRate ++ channels)⟩ ::
    if codec.formatLine.isEmpty then [] else [⟨"fmtp", some (start ++ codec.formatLine)⟩]

/-- What a section says about a track, which is the only source of its section. -/
def trackAttributes (track : Track) : List Sdp.Attribute :=
  ["cname:" ++ track.stream, "msid:" ++ track.stream ++ " " ++ track.name,
      "mslabel:" ++ track.stream, "label:" ++ track.name].map (fun text =>
    ⟨"ssrc", some ("1 " ++ text)⟩) ++ [⟨"msid", some (track.stream ++ " " ++ track.name)⟩]

/-- The section that turns a kind of media down. -/
def rejection (kind : MediaKind) : Sdp.Section :=
  { medium := kind.name, port := "0", protocol, formats := ["0"] }

/-- The section of a transceiver with some codecs.  Without codecs it is turned down, for which it
must not have a track. -/
def section? (transceiver : Transceiver) (codecs : List CodecParameters) : Option Sdp.Section :=
  if codecs.isEmpty then
    if transceiver.track.isSome then none else some (rejection transceiver.kind)
  else
    some
      { medium := transceiver.kind.name, port := "9", protocol
        formats := codecs.map (fun codec => toString codec.payloadType)
        attributes := [⟨"mid", transceiver.mid⟩] ++ codecs.flatMap codecAttributes ++
          (transceiver.track.map trackAttributes).getD [] ++ [⟨transceiver.direction.name, none⟩] }

end Transceiver

end RelayMesh
