import RelayMesh.Url.Address

/-!
# Candidates

A candidate is an address at which a side may be reached, written as eight
words and optional further ones: foundation, component, protocol, priority,
address, port, the word `typ` and the type.
-/

namespace RelayMesh.Candidate

/-- The types of candidates. -/
def types : List String := ["host", "srflx", "prflx", "relay"]

/-- Whether the words after the type are complete: a related address has four of them. -/
def isTail (words : List String) : Bool :=
  match words with
  | "raddr" :: _ :: _ :: port :: _ => (Text.readNatural 65536 port.toList).isSome
  | "raddr" :: _ => false
  | ["tcptype"] => false
  | _ => true

/-- Whether a protocol is one of the two that candidates use. -/
def isProtocol (text : String) : Bool :=
  let name := text.toLower
  name.startsWith "udp" || name.startsWith "tcp"

/-- Whether an address can be reached by a protocol: one in digits by either of the two, and a name
of the local network, which only a side that is reached directly has, by whatever is said. -/
def isReachable (type protocol address : String) : Bool :=
  (type = "host" && address.endsWith ".local") ||
    ((Address.isQuad address.toList || Address.isGrouped address.toList) && isProtocol protocol)

/-- Whether a text has the words of a candidate. -/
def isComplete (text : String) : Bool :=
  match (Text.words text.toList).map String.ofList with
  | _ :: component :: protocol :: priority :: address :: port :: _ :: type :: tail =>
    isReachable type protocol address &&
      (Text.readNatural UInt16.size component.toList).isSome &&
      (Text.readNatural UInt32.size priority.toList).isSome &&
      (Text.readNatural UInt16.size port.toList).isSome &&
      types.contains type && isTail tail
  | _ => false

/-- Whether a text is a candidate; an empty one says that there are no more. -/
def isReadable (text : String) : Bool :=
  let body := ("candidate:".toList.isPrefixOf? text.toList).getD text.toList
  body.isEmpty || isComplete (String.ofList body)

/-- The candidate of an address of this host. -/
def ofAddress (address : String) : String :=
  "candidate:1 1 udp 2130706431 " ++ address ++ " 9 typ host"

end RelayMesh.Candidate
