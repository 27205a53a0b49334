import RelayMesh.Media
import RelayMesh.Text.Blank

/-!
# Codecs

The codecs that a link offers, the parameters under which each is registered,
and the format in which payloads are exchanged.  `CodecKind.ofName` reads a
name freely; a name that it does not know stands for PCMU, which every peer
supports.
-/

namespace RelayMesh

/-- A codec. -/
inductive CodecKind where
  | pcmu
  | pcma
  | g722
  | opus
  | h264
  | vp8
  | vp9
deriving Repr, DecidableEq, Inhabited

/-- How a codec is registered with the engine. -/
structure CodecParameters where
  mimeType : String
  clockRate : Nat
  channels : Nat
  formatLine : String
  payloadType : Nat
deriving Repr, DecidableEq

/-- The format of a payload. -/
structure CodecConfig where
  codec : String
  sampleRate : Nat
  channels : Nat
  bitDepth : Nat
  frameMillis : Nat
deriving Repr, DecidableEq, Inhabited

namespace CodecKind

/-- The codecs, in the order in which they are registered. -/
def all : List CodecKind := [pcmu, pcma, g722, opus, h264, vp8, vp9]

/-- The name of a codec. -/
def name : CodecKind → String
  | pcmu => "pcmu"
  | pcma => "pcma"
  | g722 => "g722"
  | opus => "opus"
  | h264 => "h264"
  | vp8 => "vp8"
  | vp9 => "vp9"

/-- Other spellings of names. -/
def aliases : List (String × CodecKind) := [("g.722", g722), ("h.264", h264)]

/-- The codec of a name; blanks around it and the case of its letters do not matter. -/
def ofName (name : String) : CodecKind :=
  let key := (String.ofList (Text.trim name.toList)).toLower
  ((all.map (fun kind => (kind.name, kind)) ++ aliases).lookup key).getD pcmu

/-- What the codec encodes. -/
def media : CodecKind → MediaKind
  | pcmu | pcma | g722 | opus => .audio
  | h264 | vp8 | vp9 => .video

/-- Whether the codec encodes video. -/
def isVideo (kind : CodecKind) : Bool :=
  kind.media = .video

/-- The parameters under which the codec is registered. -/
def parameters : CodecKind → CodecParameters
  | pcmu => ⟨"audio/PCMU", 8000, 0, "", 0⟩
  | pcma => ⟨"audio/PCMA", 8000, 0, "", 8⟩
  | g722 => ⟨"audio/G722", 8000, 0, "", 9⟩
  | opus => ⟨"audio/opus", 48000, 2, "minptime=10;useinbandfec=1", 111⟩
  | h264 =>
    ⟨"video/H264", 90000, 0,
      "level-asymmetry-allowed=1;packetization-mode=1;profile-level-id=42001f", 96⟩
  | vp8 => ⟨"video/VP8", 90000, 0, "", 97⟩
  | vp9 => ⟨"video/VP9", 90000, 0, "profile-id=0", 98⟩

/-- The format of the payloads that a link exchanges: 20 ms of 8-bit mono at 8 kHz. -/
def config (kind : CodecKind) : CodecConfig :=
  ⟨kind.name, 8000, 1, 8, 20⟩

end CodecKind

namespace CodecConfig

/-- The number of payload bytes per millisecond; a format without channels counts as mono. -/
def bytesPerMilli (config : CodecConfig) : Nat :=
  config.sampleRate * config.bitDepth * max config.channels 1 / 1000 / 8

/-- Whether payloads can be passed on as they are: bit depth and frame length do not matter. -/
def sameFormat (a b : CodecConfig) : Bool :=
  a.codec = b.codec && a.sampleRate = b.sampleRate && a.channels = b.channels

end CodecConfig

end RelayMesh
