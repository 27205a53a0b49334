import RelayMesh.Codec.Kind
import RelayMesh.Text.Hex
import RelayMesh.Text.Numeral

/-!
# Codecs that two sides share

Both sides of an exchange list codecs, each with parameters on its format
line.  A codec of the other side fits one of this side exactly when the two
have the same name and no parameter on which they disagree, and loosely when
only the names are the same.  `Shared.ofList?` goes through the codecs of the
other side and keeps those that fit, the exact ones apart from the loose ones;
`Shared.codecs` prefers the exact ones.
-/

namespace RelayMesh

/-- How well a codec of the other side fits those of this side. -/
inductive CodecFit where
  | exact
  | loose
deriving Repr, DecidableEq

namespace CodecParameters

/-! ## Parameters on the format line -/

/-- The parameters of a codec and their values; the case of a name does not matter. -/
def settings (codec : CodecParameters) : List (String × String) :=
  (Text.splitOn ';' codec.formatLine.toList).map (fun part =>
    let part := Text.trim part
    ((String.ofList (part.takeWhile (· ≠ '='))).toLower,
      String.ofList ((part.dropWhile (· ≠ '=')).drop 1)))

/-- The value of a parameter; of several the last one counts. -/
def setting? (codec : CodecParameters) (name : String) : Option String :=
  codec.settings.reverse.lookup name

/-- Whether two codecs agree on every parameter that both have. -/
def agrees (a b : CodecParameters) : Bool :=
  a.settings.all (fun (name, _) =>
    match a.setting? name, b.setting? name with
    | some x, some y => x.toUpper = y.toUpper
    | _, _ => true)

/-! ## H264 -/

/-- Whether the codec is H264, whose parameters say which bit streams can be decoded. -/
def isH264 (codec : CodecParameters) : Bool :=
  codec.mimeType.toLower = CodecKind.h264.parameters.mimeType.toLower

/-- The profile of the codec: the first two bytes of its level identifier. -/
def profile? (codec : CodecParameters) : Option (UInt8 × UInt8) :=
  match (codec.setting? "profile-level-id").bind (fun digits => Text.bytesOfHex? digits.toList) with
  | some (profile :: constraints :: _) => some (profile, constraints)
  | _ => none

/-- Whether two codecs give the same value to something that both have to give. -/
def sameGiven {α : Type} [DecidableEq α] (a b : CodecParameters)
    (read : CodecParameters → Option α) : Bool :=
  (read a).isSome && read a = read b

/-! ## Fitting -/

/-- Whether two codecs have the same name; its case does not matter. -/
def sameName (a b : CodecParameters) : Bool :=
  a.mimeType.toLower = b.mimeType.toLower

/-- Whether two codecs have the same name and parameters that go together. -/
def fitsExactly (a b : CodecParameters) : Bool :=
  a.sameName b &&
    if a.isH264 then
      sameGiven a b (fun codec => codec.setting? "packetization-mode") && sameGiven a b profile?
    else a.agrees b

/-- How well a codec fits some codecs of this side; `none` when it is not among them. -/
def fit? (codec : CodecParameters) (own : List CodecParameters) : Option CodecFit :=
  if own.any codec.fitsExactly then some .exact
  else if own.any codec.sameName then some .loose
  else none

/-- The payload type of the codec that this one belongs to, as it is written. -/
def companion? (codec : CodecParameters) : Option String :=
  codec.setting? "apt"

/-- Tones of a telephone keypad, which are sent apart from speech. -/
def keypadTones : CodecParameters :=
  ⟨"audio/telephone-event", 8000, 0, "", 101⟩

end CodecParameters

/-- The codecs of this side for a kind of media, in the order of their registration. -/
def MediaKind.codecs (kind : MediaKind) : List CodecParameters :=
  let named := (CodecKind.all.filter (fun codec => codec.media = kind)).map CodecKind.parameters
  match kind with
  | .audio => named ++ [CodecParameters.keypadTones]
  | .video => named

/-- The codecs of the other side that fit some of this side, in the order of the other side. -/
structure Shared where
  exact : List CodecParameters := []
  loose : List CodecParameters := []
deriving Repr, DecidableEq

namespace Shared

/-- Adds a codec that fits as said. -/
def insert (shared : Shared) (codec : CodecParameters) : Option CodecFit → Shared
  | some .exact => { shared with exact := shared.exact ++ [codec] }
  | some .loose => { shared with loose := shared.loose ++ [codec] }
  | none => shared

/-- Goes on to the next codec of the other side.  One that belongs to another codec fits no better
than that one; `none` when it cannot be told which one that is. -/
def step? (own : List CodecParameters) (shared : Shared) (codec : CodecParameters) :
    Option Shared :=
  match codec.companion? with
  | none => some (shared.insert codec (codec.fit? own))
  | some written => do
    let payloadType ← Text.readNatural 256 written.toList
    if shared.exact.any (fun other => other.payloadType = payloadType) then
      some (shared.insert codec (codec.fit? own))
    else if shared.loose.any (fun other => other.payloadType = payloadType) then
      some (shared.insert codec ((codec.fit? own).map (fun _ => .loose)))
    else some shared

/-- Sorts the codecs of the other side. -/
def ofList? (own offered : List CodecParameters) : Option Shared :=
  offered.foldlM (step? own) {}

/-- The codecs that the two sides settle on: the exact ones, or the loose ones if there are none. -/
def codecs (shared : Shared) : List CodecParameters :=
  if shared.exact.isEmpty then shared.loose else shared.exact

end Shared

end RelayMesh
