/-
# StartupGate.Network.Network -- what a network does with connections and requests

A network is given by what it does: the addresses a host resolves to, the outcome of a
connection attempt to an address, and the outcome of an HTTP request to a URL.  The
checks and the lease client are functions of a network.

`Network.isolated` is the network of a host without any route: numeric addresses resolve,
and nothing can be reached.
-/
import StartupGate.Network.Url

set_option autoImplicit false

namespace StartupGate

inductive AddressFamily where
  | v4 | v6
  deriving DecidableEq, Repr

structure SocketAddress where
  family : AddressFamily
  host : String
  port : Nat
  deriving DecidableEq, Repr

inductive ConnectFailure where
  | connectionRefused
  | networkUnreachable
  /-- The host has no address. -/
  | unresolved
  /-- The host holds a character that no name holds. -/
  | invalidHost
  deriving DecidableEq, Repr

/-- What comes of a connection attempt; a silent one has no outcome at all. -/
inductive ConnectOutcome where
  | connected
  | failed (cause : ConnectFailure)
  | silent
  deriving DecidableEq, Repr

inductive HttpFailure where
  | timeout
  /-- Too many redirects. -/
  | redirect
  | connect
  /-- The URL cannot be opened. -/
  | builder
  | request
  deriving DecidableEq, Repr

structure Network where
  resolve : (host : String) → (port : Nat) → Except ConnectFailure (List SocketAddress)
  connect : (udp : Bool) → SocketAddress → ConnectOutcome
  /-- The final status of a GET request, behind all redirects. -/
  get : (url : String) → Except HttpFailure Nat

namespace Network

/-- The interface that every host has. -/
def loopbackInterface : List Char := ['l', 'o']

def maxInterface : Nat := Nat.pow 2 32 - 1

def isInterfaceNumber (cs : List Char) : Bool :=
  cs ≠ [] && cs.all Char.isDigit && Decimal.ofDigits cs ≤ maxInterface

/-- An IPv6 address that means something on one link only, so its interface can go by name. -/
def isOfLink (cs : List Char) : Bool :=
  let group := (cs.takeWhile (· ≠ ':')).map Char.toLower
  match group with
  | ['f', 'e', x, _] => "89ab".toList.contains x
  | ['f', 'f', _, x] => x = '1' || x = '2'
  | _ => false

/-- An IPv6 address, behind a percent sign with the interface it is for; `named` allows a name. -/
def isScopedIpv6 (named : Bool) (cs : List Char) : Bool :=
  match Text.splitFirst '%' cs with
  | none => Url.isIpv6 cs
  | some (address, scope) =>
      Url.isIpv6 address &&
        (isInterfaceNumber scope || (named && isOfLink address && scope = loopbackInterface))

/-- The family of the address that a host writes as a number, or in brackets. -/
def literal? (host : String) : Option AddressFamily :=
  match host.toList with
  | '[' :: rest =>
      if rest.getLast? = some ']' ∧ isScopedIpv6 false rest.dropLast then some .v6 else none
  | cs =>
      if Url.isLooseIpv4 cs then some .v4
      else if isScopedIpv6 true cs then some .v6
      else if host = "localhost" then some .v4
      else none

/-- A host without any route. -/
def isolated : Network where
  resolve host port :=
    match literal? host with
    | some family => .ok [⟨family, host, port⟩]
    | none => .error (if host.toList.contains '\x00' then .invalidHost else .unresolved)
  connect _ _ := .failed .networkUnreachable
  get url := .error (if Url.isOpenable url then .connect else .builder)

end Network

end StartupGate
