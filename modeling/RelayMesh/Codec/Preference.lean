import RelayMesh.Codec.Kind
import RelayMesh.Error
import RelayMesh.Text.Numeral

/-!
# The preferred audio codec of a session description

A session description is a list of lines.  A line `m=` opens a media section;
the first audio section whose opening line names a format decides, and in it
the first line `a=rtpmap:` for exactly that format.
-/

namespace RelayMesh.Preference

/-- The first format that an audio section lists on its opening line, given without `m=`:
`none` for other media, `some none` for an audio section without formats. -/
def audioFormat (media : List Char) : Option (Option (List Char)) :=
  match Text.words media with
  | kind :: rest => if kind = "audio".toList then some rest[2]? else none
  | [] => none

/-- A text cut at its first blank space; `none` in place of a missing second part. -/
def cutAtSpace (text : List Char) : List Char × Option (List Char) :=
  match text.dropWhile (· ≠ ' ') with
  | _ :: rest => (text.takeWhile (· ≠ ' '), some rest)
  | [] => (text, none)

/-- The format that a mapping line describes, given without `a=rtpmap:`. -/
def readMapping (mapping : List Char) (encoding : Option (List Char)) :
    Except RelayError CodecConfig :=
  match encoding with
  | none => .error (.codec ("malformed rtpmap: " ++ String.ofList mapping))
  | some encoding =>
    let parts := Text.splitOn '/' encoding
    let name := (parts.headD []).map Char.toLower
    match parts[1]?.bind (Text.readNatural UInt32.size) with
    | some rate => .ok ⟨String.ofList name, rate, 1, 8, 20⟩
    | none => .error (.codec ("missing clock rate in rtpmap: " ++ String.ofList mapping))

/-- The failure of a description that names no audio codec. -/
def notFound : Except RelayError CodecConfig :=
  .error (.codec "did not find audio codec in SDP")

/-- The codec that a section maps its format to, read from the lines after the opening one. -/
def inSection (format : List Char) : List (List Char) → Except RelayError CodecConfig
  | [] => notFound
  | line :: rest =>
    if ("m=".toList.isPrefixOf line) then notFound
    else
      match "a=rtpmap:".toList.isPrefixOf? line with
      | none => inSection format rest
      | some mapping =>
        let (mapped, encoding) := cutAtSpace mapping
        if mapped = format then readMapping mapping encoding else inSection format rest

/-- The codec of the first audio section that names a format. -/
def inLines : List (List Char) → Except RelayError CodecConfig
  | [] => notFound
  | line :: rest =>
    match ("m=".toList.isPrefixOf? line).bind audioFormat with
    | some (some format) => inSection format rest
    | _ => inLines rest

end RelayMesh.Preference

namespace RelayMesh

/-- The preferred audio codec of a session description. -/
def preferredAudioCodec (description : String) : Except RelayError CodecConfig :=
  Preference.inLines (Text.trimmedLines description.toList)

end RelayMesh
