import RelayMesh.Codec.Kind
import RelayMesh.Error

/-!
# Reframing payloads

A payload passes from one format to the same format untouched and is cut
into frames of the target's frame length.
-/

namespace RelayMesh

/-- The bytes of a payload. -/
abbrev Payload := List UInt8

/-- Cuts a payload into pieces of `size + 1` bytes; the last piece may be shorter. -/
def pieces (size : Nat) : Payload → List Payload
  | [] => []
  | byte :: rest => (byte :: rest.take size) :: pieces size (rest.drop size)
termination_by payload => payload.length
decreasing_by simp only [List.length_drop, List.length_cons]; omega

/-- The frame length of a format in bytes. -/
def CodecConfig.frameLength (config : CodecConfig) : Nat :=
  config.bytesPerMilli * config.frameMillis

/-- The number of frame lengths that can be counted, in words of 64 bits. -/
def maxFrameLength : Nat := UInt64.size

/-- The frames of a payload; a frame length of zero leaves a payload whole. -/
def frames (length : Nat) (payload : Payload) : List Payload :=
  match length with
  | 0 => if payload.isEmpty then [] else [payload]
  | size + 1 => pieces size payload

/-- The frames that carry a payload of format `source` in format `target`.  A frame length that
cannot be counted is a failure where there is something to cut. -/
def transcode (source target : CodecConfig) (payload : Payload) :
    Except RelayError (List Payload) :=
  if source.sameFormat target then
    if maxFrameLength ≤ target.frameLength ∧ !payload.isEmpty then .error .frameTooLong
    else .ok (frames target.frameLength payload)
  else
    .error (.codec ("no transcoder from " ++ source.codec ++ "/" ++ toString source.sampleRate ++
      " to " ++ target.codec ++ "/" ++ toString target.sampleRate))

end RelayMesh
