import RelayMesh.Url.Basic

/-!
# Addresses of servers

The address of a server that helps peers find a path to each other: a scheme,
a colon, a host, and after it, where they are given, a port, a path and a
query, as in `stun:example.org` and
`turns:relay.example:5349?transport=tcp`.

`ServerUrl.read` gives the parts that matter.  The case of the scheme does not
matter, a name before the host and a path after it are dropped, and so are
line breaks and tabs anywhere and blanks at the ends.  Two slashes in a row
are refused, and a query may only say which transport a relay is reached by;
`stun` in lower case at the very start of a text lets a query go unread.
-/

namespace RelayMesh

/-- What kind of server an address names, and whether it is reached over an encrypted path. -/
inductive ServerScheme where
  | stun
  | stuns
  | turn
  | turns
deriving Repr, DecidableEq

namespace ServerScheme

/-- The schemes. -/
def all : List ServerScheme := [stun, stuns, turn, turns]

/-- The name of a scheme. -/
def name : ServerScheme → String
  | stun => "stun"
  | stuns => "stuns"
  | turn => "turn"
  | turns => "turns"

/-- The scheme of a name in upper or lower case. -/
def ofName? (name : String) : Option ServerScheme :=
  all.find? (fun scheme => scheme.name = name.toLower)

/-- Whether the server relays packets, which it does only for those it knows. -/
def isRelay : ServerScheme → Bool
  | stun | stuns => false
  | turn | turns => true

end ServerScheme

/-- What carries the packets to a relay. -/
inductive Transport where
  | udp
  | tcp
deriving Repr, DecidableEq

/-- The transport of a name. -/
def Transport.ofName? : String → Option Transport
  | "udp" => some udp
  | "tcp" => some tcp
  | _ => none

/-- The address of a server. -/
structure ServerUrl where
  scheme : ServerScheme
  host : Url.Host
  port : Option Nat := none
  transport : Option Transport := none
deriving Repr, DecidableEq

namespace ServerUrl

open Text

/-! ## Query -/

/-- A part of a query with its escapes read: a plus sign is a space, and a percent sign with two
hexadecimal digits is a byte.  Bytes that spell no text give none. -/
def unescape? (part : List Char) : Option String :=
  (readPercent? (part.map (fun c => if c = '+' then ' ' else c))).map String.ofList

/-- The names and values of a query. -/
def pairs (query : List Char) : List (Option String × Option String) :=
  ((splitOn '&' query).filter (fun pair => !pair.isEmpty)).map (fun pair =>
    (unescape? (pair.takeWhile (· ≠ '=')), unescape? ((pair.dropWhile (· ≠ '=')).drop 1)))

/-- The transport that a query names; only the address of a relay may have a query. -/
def readQuery (scheme : ServerScheme) (query : List Char) : Option (Option Transport) :=
  match pairs query with
  | [] => some none
  | [(name, value)] =>
    if scheme.isRelay ∧ name = some "transport" then (value.bind Transport.ofName?).map some
    else none
  | _ => none

/-! ## The whole address -/

/-- Whether two slashes follow each other in a text. -/
def hasSlashes (text : List Char) : Bool :=
  (text.zip (text.drop 1)).contains ('/', '/')

/-- A text without the query that a server of the schemes `stun` and `stuns` has no use for.  It is
dropped before the text is read, so only a text that starts with the scheme in lower case loses
it. -/
def withoutUnusedQuery (text : List Char) : List Char :=
  if ServerScheme.stun.name.toList.isPrefixOf text then text.takeWhile (· ≠ '?') else text

/-- A text with two slashes after its first colon, which make an address of it that leads
somewhere. -/
def withSlashes (text : List Char) : List Char :=
  text.takeWhile (· ≠ ':') ++ [':', '/', '/'] ++ (text.dropWhile (· ≠ ':')).drop 1

/-- The address that a text gives, if it gives one. -/
def read (text : String) : Option ServerUrl := do
  let text := withoutUnusedQuery text.toList
  guard (!hasSlashes text && text.contains ':')
  let url ← Url.read? (withSlashes text)
  let scheme ← ServerScheme.ofName? url.scheme
  let transport ← readQuery scheme url.query.toList
  pure { scheme, host := ← url.host, port := url.port, transport }

end ServerUrl

end RelayMesh
