import RelayMesh.Text.Blank
import RelayMesh.Text.Numeral
import RelayMesh.Url.Basic

/-!
# Lines of a session description

A line is a letter, an equals sign and a value.  The letter says what the
line is about and `Line.isWellFormed` what its value has to look like:

* `v` version, `o` origin, `s` name, `i` title, `u` address of a page, `e` and
  `p` contacts, `c` connection, `b` bandwidth;
* `t` times, `r` repetitions, `z` time zones, `k` key, `a` attribute;
* `m` the opening of a media section.
-/

namespace RelayMesh.Sdp

open Text

/-- A line: its letter and its value, which has no blanks around it. -/
structure Line where
  key : Char
  value : List Char
deriving Repr, DecidableEq

/-- The line that a text holds. -/
def readLine : List Char → Option Line
  | key :: '=' :: value => some ⟨key, trim value⟩
  | _ => none

/-- The lines of a text; carriage returns before a line and empty lines do not count. -/
def readLines (text : List Char) : Option (List Line) :=
  let lines := (splitOn '\n' text).map (fun line => line.dropWhile (· = '\r'))
  (lines.filter (fun line => !line.isEmpty)).mapM readLine

/-! ## Parts of values -/

/-- Whether a text is one of some words. -/
def isOneOf (words : List String) (text : List Char) : Bool :=
  words.contains (String.ofList text)

/-- Whether a text is a number of 64 bits. -/
def isNumber (text : List Char) : Bool :=
  (readNatural UInt64.size text).isSome

/-- The number of seconds in a unit of time. -/
def secondsIn? : Char → Option Nat
  | 'd' => some 86400
  | 'h' => some 3600
  | 'm' => some 60
  | 's' => some 1
  | _ => none

/-- Whether a text is a length of time: a number and perhaps a unit, which is given in seconds by
a signed number of 64 bits. -/
def isDuration (text : List Char) : Bool :=
  match text.getLast?.bind secondsIn? with
  | some seconds => (readInteger 64 text.dropLast).any (fun n => fitsSigned 64 (n * seconds))
  | none => (readInteger 64 text).isSome

/-- Whether some words are pairs of a time and a length of time. -/
def areAdjustments : List (List Char) → Bool
  | [] => true
  | [_] => false
  | time :: offset :: rest => isNumber time && isDuration offset && areAdjustments rest

/-! ## Values -/

/-- The networks that an address may belong to. -/
def networks : List String := ["IN"]

/-- The kinds of addresses. -/
def addressKinds : List String := ["IP4", "IP6"]

/-- Whether a value is an origin. -/
def isOrigin (value : List Char) : Bool :=
  match words value with
  | [_, session, version, network, kind, _] =>
    isNumber session && isNumber version && isOneOf networks network && isOneOf addressKinds kind
  | _ => false

/-- Whether a value says how the other side is connected; the address may be missing. -/
def isConnection (value : List Char) : Bool :=
  match words value with
  | network :: kind :: _ => isOneOf networks network && isOneOf addressKinds kind
  | _ => false

/-- The kinds of bandwidths; those that start with `X-` are free. -/
def bandwidthKinds : List String := ["CT", "AS", "TIAS"]

/-- Whether a value is a bandwidth. -/
def isBandwidth (value : List Char) : Bool :=
  match splitOn ':' value with
  | [kind, amount] =>
    ("X-".toList.isPrefixOf kind || isOneOf bandwidthKinds kind) && isNumber amount
  | _ => false

/-- Whether a value gives the start and the end of a session. -/
def isTiming (value : List Char) : Bool :=
  match words value with
  | start :: stop :: _ => isNumber start && isNumber stop
  | _ => false

/-- Whether a value says how often and when a session is repeated. -/
def isRepetition (value : List Char) : Bool :=
  let lengths := words value
  3 ≤ lengths.length && lengths.all isDuration

/-- The media that a section may be about. -/
def media : List String := ["audio", "video", "text", "application", "message"]

/-- The parts of which the name of a protocol is made up. -/
def protocols : List String :=
  ["UDP", "RTP", "AVP", "SAVP", "SAVPF", "TLS", "DTLS", "SCTP", "AVPF"]

/-- Whether a text is a port, perhaps with the number of ports. -/
def isPort (text : List Char) : Bool :=
  match splitOn '/' text with
  | [] => false
  | [port] => (readNatural 65536 port).isSome
  | port :: count :: _ => (readNatural 65536 port).isSome && (readInteger 32 count).isSome

/-- Whether a value opens a media section: medium, port, protocol and at least one format. -/
def isOpening (value : List Char) : Bool :=
  match words value with
  | medium :: port :: protocol :: _ :: _ =>
    isOneOf media medium && isPort port && (splitOn '/' protocol).all (isOneOf protocols)
  | _ => false

/-- Whether the value of a line has the form that its letter asks for. -/
def Line.isWellFormed (line : Line) : Bool :=
  match line.key with
  | 'v' => readNatural UInt32.size line.value = some 0
  | 'o' => isOrigin line.value
  | 'c' => isConnection line.value
  | 'b' => isBandwidth line.value
  | 't' => isTiming line.value
  | 'r' => isRepetition line.value
  | 'z' => areAdjustments (words line.value)
  | 'u' => (Url.read? line.value).isSome
  | 'm' => isOpening line.value
  | _ => true

end RelayMesh.Sdp
