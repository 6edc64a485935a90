/-
# StartupGate.Network.Probe -- whether an endpoint can be reached

An HTTP endpoint is reached if a request to its URL ends with a status from 200 to 299.
A raw endpoint is reached if one of its host's addresses of the transport's family takes
a connection; the addresses are tried in order until one does.
-/
import StartupGate.Endpoint
import StartupGate.Network.Network
import StartupGate.Time

set_option autoImplicit false

namespace StartupGate

inductive ProbeError where
  | http (cause : HttpFailure)
  | connect (cause : ConnectFailure)
  | noAddress (protocol address : String)
  | timeout (limit : Duration)
  | status (code : Nat)
  deriving DecidableEq, Repr

/-- The message of the errors that have one of their own. -/
def ProbeError.message? : ProbeError → Option String
  | .http _ => none
  | .connect _ => none
  | .noAddress protocol address =>
      some ("no " ++ protocol ++ " address found for " ++ address)
  | .timeout limit => some ("timed out after " ++ limit.text)
  | .status code => some ("unexpected status " ++ Integer.toText code)

/-- The family a transport is bound to. -/
def Transport.admits (t : Transport) (a : SocketAddress) : Bool :=
  match t with
  | .tcp4 | .udp4 => a.family == .v4
  | .tcp6 | .udp6 => a.family == .v6
  | .tcp | .udp => true

namespace Probe

/-- The outcome of trying addresses in order. -/
inductive Trial where
  | connected
  /-- No address took a connection; with the last cause, if there was an address. -/
  | failed (last : Option ConnectFailure)
  | silent
  deriving DecidableEq, Repr

/-- Tries addresses in order up to the first that takes a connection, and says which were tried. -/
def tryAddresses (connect : SocketAddress → ConnectOutcome) (last : Option ConnectFailure) :
    List SocketAddress → Trial × List SocketAddress
  | [] => (.failed last, [])
  | a :: rest =>
      match connect a with
      | .connected => (.connected, [a])
      | .silent => (.silent, [a])
      | .failed cause =>
          let (trial, tried) := tryAddresses connect (some cause) rest
          (trial, a :: tried)

/-- Probes a raw endpoint, and says which addresses were tried. -/
def raw (net : Network) (timeout : Duration) (t : Transport) (host : String) (port : Nat) :
    Except ProbeError Unit × List SocketAddress :=
  match net.resolve host port with
  | .error cause => (.error (.connect cause), [])
  | .ok addresses =>
      let (trial, tried) := tryAddresses (net.connect t.isUdp) none (addresses.filter t.admits)
      match trial with
      | .connected => (.ok (), tried)
      | .silent => (.error (.timeout timeout), tried)
      | .failed (some cause) => (.error (.connect cause), tried)
      | .failed none => (.error (.noAddress t.name (Endpoint.addressText host port)), tried)

def isSuccess (status : Nat) : Bool := 200 ≤ status && status < 300

def http (net : Network) (url : String) : Except ProbeError Unit :=
  match net.get url with
  | .error cause => .error (.http cause)
  | .ok status => if isSuccess status then .ok () else .error (.status status)

def endpoint (net : Network) (timeout : Duration) : Endpoint → Except ProbeError Unit
  | .http _ url => http net url
  | .raw t host port => (raw net timeout t host port).1

end Probe

end StartupGate
