import RelayMesh.Error
import RelayMesh.Text.Numeral

/-!
# The host

What the server's machine offers to it: the addresses of its network
interfaces.  They are where peers can reach a link, and where the server can
wait for connections.
-/

namespace RelayMesh

/-- A machine with some addresses. -/
structure Host where
  addresses : List String
deriving Repr, DecidableEq

namespace Host

/-- A machine without a network interface. -/
def isolated : Host := ⟨[]⟩

/-- The address that stands for all addresses of a machine. -/
def anyAddress : String := "0.0.0.0"

/-- An address and a port, which stands after the last colon. -/
def readEndpoint (text : String) : Option (String × Nat) :=
  let reversed := text.toList.reverse
  match reversed.dropWhile (· ≠ ':') with
  | _ :: address =>
    (Text.readNatural 65536 (reversed.takeWhile (· ≠ ':')).reverse).map (fun port =>
      (String.ofList address.reverse, port))
  | [] => none

/-- The endpoint at which the machine waits for connections. -/
def listen (host : Host) (endpoint : String) : Except RelayError (String × Nat) :=
  match readEndpoint endpoint with
  | none => .error (.io "invalid socket address")
  | some (address, port) =>
    if host.addresses.contains address || (address = anyAddress && !host.addresses.isEmpty) then
      .ok (address, port)
    else .error (.io "cannot assign requested address")

end Host

end RelayMesh
