/-
# StartupGate.LockClient -- waiting for a lease from a gate

A client asks the gate for a lease by a GET request and holds one if the status is 200.
Waiting repeats the request, one period after the end of the one before, until a lease is
granted or the shutdown comes; a request that fails is like one that is denied.

The requests and their outcomes are given beforehand (`Poll`), so that a wait is a
function of them; `fuel` bounds how many requests are looked at.
-/
import StartupGate.Network.Network
import StartupGate.Time

set_option autoImplicit false

namespace StartupGate.LockClient

/-- The URL that asks for a lease, for a number of whole seconds if a duration is given. -/
def url (host : String) (port : Nat) (duration : Option Duration) : String :=
  "http://" ++ host ++ ":" ++ Integer.toText port ++ "/" ++
    match duration with
    | some d => "?duration=" ++ Integer.toText d.seconds
    | none => ""

def grantedStatus : Nat := 200

def acquire (net : Network) (url : String) : Except HttpFailure Bool :=
  match net.get url with
  | .error cause => .error cause
  | .ok status => .ok (status == grantedStatus)

/-! ## Waiting -/

/-- What comes of a request: an answer or a failure after some time, or nothing ever. -/
inductive Poll where
  | ends (result : Except HttpFailure Nat) (takes : Millis)
  | hangs

def isGrant : Except HttpFailure Nat → Bool
  | .ok status => status == grantedStatus
  | .error _ => false

/-- How a wait ends, as far as it was looked at. -/
inductive Ending where
  | granted
  | shutDown
  /-- A request hangs and no shutdown comes. -/
  | endless
  /-- The wait goes on beyond the requests looked at. -/
  | waiting
  deriving DecidableEq, Repr

/-- The course of a wait: when requests were sent, how it ended and when. -/
structure Wait where
  ending : Ending
  requests : List Millis
  finished : Millis
  deriving DecidableEq, Repr

def Wait.requested (now : Millis) (w : Wait) : Wait := { w with requests := now :: w.requests }

/-- The instant of the shutdown, if it comes before another instant. -/
def shutdownBefore? (shutdown : Option Millis) (t : Millis) : Option Millis :=
  shutdown.bind fun c => if c < t then some c else none

def waitFrom (period : Duration) (polls : Nat → Poll) (shutdown : Option Millis) :
    (fuel k : Nat) → Millis → Wait
  | 0, _, now => ⟨.waiting, [], now⟩
  | fuel + 1, k, now =>
      Wait.requested now <|
      match polls k with
      | .hangs =>
          match shutdown with
          | some c => ⟨.shutDown, [], max now c⟩
          | none => ⟨.endless, [], now⟩
      | .ends result takes =>
          match shutdownBefore? shutdown (now + takes) with
          | some c => ⟨.shutDown, [], max now c⟩
          | none =>
              if isGrant result then ⟨.granted, [], now + takes⟩
              else
                let next := Millis.wake (now + takes) period
                match shutdownBefore? shutdown next with
                | some c => ⟨.shutDown, [], max (now + takes) c⟩
                | none => waitFrom period polls shutdown fuel (k + 1) next

/-- The wait for a lease, looking at no more than `fuel` requests. -/
def wait (period : Duration) (polls : Nat → Poll) (shutdown : Option Millis) (fuel : Nat) : Wait :=
  waitFrom period polls shutdown fuel 0 0

/-- The polls of a network that answers at once. -/
def pollsOf (net : Network) (url : String) : Nat → Poll := fun _ => .ends (net.get url) 0

/-- Waits on a network until a shutdown; with a period of at least a millisecond there is no more
than one request in each. -/
def waitUntil (net : Network) (url : String) (period : Duration) (shutdown : Millis) : Wait :=
  wait period (pollsOf net url) (some shutdown) (shutdown + 2)

end StartupGate.LockClient
