/-
# StartupGate.Endpoint -- the things whose reachability is checked

An endpoint is written `scheme://rest`.  With scheme `http` or `https` the whole text is
its URL, taken as it is.  Any other scheme must name a transport, and the rest must be
`host:port`, cut at its last colon: a host without blanks and a decimal port.

What is wrong is looked for from left to right: the scheme, then the transport, then the
address (`Endpoint.read`).  `Endpoint.source` writes an endpoint so that it reads back.
-/
import StartupGate.Number.Integer
import StartupGate.Text.Blank
import StartupGate.Text.Split

set_option autoImplicit false

namespace StartupGate

inductive EndpointError where
  | malformed (raw : String)
  | malformedAddress (address : String)
  | unsupportedProtocol (scheme : String)
  deriving DecidableEq, Repr

def EndpointError.message : EndpointError → String
  | .malformed raw => "Endpoint malformed: '" ++ raw ++ "'"
  | .malformedAddress address => "Address malformed: '" ++ address ++ "'"
  | .unsupportedProtocol scheme =>
      "Unsupported protocol '" ++ scheme ++
        "', expected http, https, tcp, tcp4, tcp6, udp, udp4 or udp6"

/-! ## Transports -/

inductive Transport where
  | tcp | tcp4 | tcp6 | udp | udp4 | udp6
  deriving DecidableEq, Repr

namespace Transport

def name : Transport → String
  | .tcp => "tcp"
  | .tcp4 => "tcp4"
  | .tcp6 => "tcp6"
  | .udp => "udp"
  | .udp4 => "udp4"
  | .udp6 => "udp6"

def read (scheme : String) : Except EndpointError Transport :=
  if scheme = "tcp" then .ok .tcp
  else if scheme = "tcp4" then .ok .tcp4
  else if scheme = "tcp6" then .ok .tcp6
  else if scheme = "udp" then .ok .udp
  else if scheme = "udp4" then .ok .udp4
  else if scheme = "udp6" then .ok .udp6
  else .error (.unsupportedProtocol scheme)

def isUdp : Transport → Bool
  | .udp | .udp4 | .udp6 => true
  | _ => false

end Transport

/-! ## Endpoints -/

/-- A raw socket, reachable if a connection to it opens, or an HTTP URL, reachable if a request
to it succeeds. -/
inductive Endpoint where
  | raw (transport : Transport) (host : String) (port : Nat)
  | http (secure : Bool) (url : String)
  deriving DecidableEq, Repr

namespace Endpoint

/-- The scheme of an endpoint. -/
def protocol : Endpoint → String
  | .raw transport _ _ => transport.name
  | .http true _ => "https"
  | .http false _ => "http"

def isHttp : Endpoint → Bool
  | .http _ _ => true
  | .raw _ _ _ => false

def addressText (host : String) (port : Nat) : String := host ++ ":" ++ Integer.toText port

def address? : Endpoint → Option String
  | .raw _ host port => some (addressText host port)
  | .http _ _ => none

def url? : Endpoint → Option String
  | .raw _ _ _ => none
  | .http _ url => some url

/-- The endpoint for a reader: its address or its URL. -/
def display : Endpoint → String
  | .raw _ host port => addressText host port
  | .http _ url => url

/-- The text that reads back as the endpoint. -/
def source : Endpoint → String
  | .raw transport host port => transport.name ++ "://" ++ addressText host port
  | .http _ url => url

/-! ## Reading -/

/-- A port: at least one digit, at most 65535. -/
def readPort? (cs : List Char) : Option Nat :=
  if cs ≠ [] ∧ cs.all Char.isDigit then
    let n := Decimal.ofDigits cs
    if n ≤ Integer.maxUnsigned16 then some n else none
  else none

/-- Reads `host:port`, cut at the last colon. -/
def readAddress (cs : List Char) : Except EndpointError (String × Nat) :=
  match Text.splitLast ':' cs with
  | none => .error (.malformedAddress (String.ofList cs))
  | some (host, port) =>
      if host = [] ∨ host.any Text.isBlank then .error (.malformedAddress (String.ofList cs))
      else match readPort? port with
        | some n => .ok (String.ofList host, n)
        | none => .error (.malformedAddress (String.ofList cs))

def separator : List Char := [':', '/', '/']

def read (s : String) : Except EndpointError Endpoint :=
  match Text.splitFirstText separator s.toList with
  | none => .error (.malformed s)
  | some (scheme, rest) =>
      if scheme = [] ∨ scheme.any Text.isBlank then .error (.malformed s)
      else
        let name := String.ofList scheme
        if name = "http" then .ok (.http false s)
        else if name = "https" then .ok (.http true s)
        else do
          let transport ← Transport.read name
          let (host, port) ← readAddress rest
          return .raw transport host port

/-- Reads every endpoint, failing at the first that is none. -/
def readAll (texts : List String) : Except EndpointError (List Endpoint) := texts.mapM read

end Endpoint

end StartupGate
