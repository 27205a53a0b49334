import RelayMesh.Codec.Kind
import RelayMesh.Json.Shape
import RelayMesh.Link.Description
import RelayMesh.Link.Options

/-!
# Codecs, options and descriptions in JSON

Spans of time are written in whole milliseconds, counted in 64 bits.
-/

namespace RelayMesh

open Json

namespace Span

/-- A span as a JSON value. -/
def toJson (span : Span) : Value :=
  .int ((span.millis % UInt64.size : Nat) : Int)

/-- The shape of a span. -/
def shape : Shape Span :=
  Shape.map Span.ofMillis (Shape.natural UInt64.size)

end Span

namespace CodecKind

/-- A codec as a JSON value. -/
def toJson (codec : CodecKind) : Value :=
  .string codec.name

/-- The shape of a codec; only the name itself is read. -/
def shape : Shape CodecKind :=
  Shape.choice (all.map (fun codec => (codec.name, codec)))

end CodecKind

/-- Parameters of a codec as a JSON value. -/
def CodecParameters.toJson (parameters : CodecParameters) : Value :=
  .record [("mime_type", .string parameters.mimeType), ("clock_rate", .int parameters.clockRate),
    ("channels", .int parameters.channels), ("fmtp", .string parameters.formatLine),
    ("payload_type", .int parameters.payloadType)]

namespace CodecConfig

/-- A format as a JSON value. -/
def toJson (config : CodecConfig) : Value :=
  .record [("codec", .string config.codec), ("sample_rate", .int config.sampleRate),
    ("channels", .int config.channels), ("bit_depth", .int config.bitDepth),
    ("frame_duration", .int config.frameMillis)]

/-- The shape of a format. -/
def shape : Shape CodecConfig := fun document => do
  match ← document.fields? ["codec", "sample_rate", "channels", "bit_depth", "frame_duration"] with
  | [codec, sampleRate, channels, bitDepth, frameMillis] =>
    pure
      { codec := ← required Shape.text codec
        sampleRate := ← required (Shape.natural UInt32.size) sampleRate
        channels := ← required (Shape.natural UInt16.size) channels
        bitDepth := ← required (Shape.natural UInt16.size) bitDepth
        frameMillis := ← required (Shape.natural UInt64.size) frameMillis }
  | _ => none

end CodecConfig

namespace IceServer

/-- A server as a JSON value. -/
def toJson (server : IceServer) : Value :=
  .record [("urls", .array (server.urls.map .string)), ("username", .string server.username),
    ("credential", .string server.credential)]

/-- The shape of a server. -/
def shape : Shape IceServer := fun document => do
  match ← document.fields? ["urls", "username", "credential"] with
  | [urls, username, credential] =>
    pure ⟨← required (Shape.list Shape.text) urls, ← withDefault "" Shape.text username,
      ← withDefault "" Shape.text credential⟩
  | _ => none

end IceServer

namespace LinkOptions

/-- Options as a JSON value. -/
def toJson (options : LinkOptions) : Value :=
  .record [("iceServers", .array (options.iceServers.map IceServer.toJson)),
    ("streamId", .string options.streamId), ("iceTimeout", options.iceTimeout.toJson),
    ("codec", .string options.codec)]

/-- The shape of options. -/
def shape : Shape LinkOptions := fun document => do
  match ← document.fields? ["iceServers", "streamId", "iceTimeout", "codec"] with
  | [iceServers, streamId, iceTimeout, codec] =>
    pure
      { iceServers := ← withDefault [] (Shape.list IceServer.shape) iceServers
        streamId := ← withDefault "" Shape.text streamId
        iceTimeout := ← withDefault 0 Span.shape iceTimeout
        codec := ← withDefault "" Shape.text codec }
  | _ => none

end LinkOptions

namespace LocalDescription

/-- A description as a JSON value. -/
def toJson (description : LocalDescription) : Value :=
  .record [("sdp", .string description.sdp),
    ("candidates", .array (description.candidates.map .string))]

/-- The shape of a description. -/
def shape : Shape LocalDescription := fun document => do
  match ← document.fields? ["sdp", "candidates"] with
  | [sdp, candidates] =>
    pure ⟨← required Shape.text sdp, ← required (Shape.list Shape.text) candidates⟩
  | _ => none

end LocalDescription

end RelayMesh
