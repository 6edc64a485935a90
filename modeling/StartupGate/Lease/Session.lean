/-
# StartupGate.Lease.Session -- a store in use

What happens to a store over time: leases are asked for, the clock moves on, and now and
then somebody looks.  `LeaseSession.run` gives the answer to each event; looking and
waiting never change what is kept, only `LeaseStore.acquire` does.  `LeaseSession.answers`
refuses events that leave the clock's range.
-/
import StartupGate.Lease.History

set_option autoImplicit false

namespace StartupGate

inductive LeaseEvent where
  | acquire (duration : Duration)
  | advance (span : Duration)
  | look
  deriving DecidableEq, Repr

/-- The answer to an event: whether a lease was granted, if one was asked for, and how many are
live afterwards. -/
structure LeaseAnswer where
  granted : Option Bool
  active : Nat
  deriving DecidableEq, Repr

structure LeaseSession where
  store : LeaseStore
  now : Instant
  deriving DecidableEq, Repr

namespace LeaseSession

def new (capacity : Nat) : LeaseSession := ⟨.new capacity, 0⟩

def active (s : LeaseSession) : Nat := s.store.active s.now

def step (s : LeaseSession) : LeaseEvent → Option Bool × LeaseSession
  | .acquire d =>
      let (granted, store) := s.store.acquire s.now d
      (some granted, { s with store })
  | .advance d => (none, { s with now := s.now + d.nanos })
  | .look => (none, s)

def run (s : LeaseSession) : List LeaseEvent → List LeaseAnswer
  | [] => []
  | e :: rest =>
      let (granted, s) := s.step e
      ⟨granted, s.active⟩ :: s.run rest

/-- The clock can show the instant that an event asks for. -/
def canStep (s : LeaseSession) : LeaseEvent → Bool
  | .acquire d => s.store.canExpire s.now d
  | .advance d => s.now + d.nanos < clockLimit
  | .look => true

def canRun (s : LeaseSession) : List LeaseEvent → Bool
  | [] => true
  | e :: rest => s.canStep e && (s.step e).2.canRun rest

/-- The answers to events in order, if the clock can show what they ask for. -/
def answers (s : LeaseSession) (events : List LeaseEvent) : Except ClockError (List LeaseAnswer) :=
  if s.canRun events then .ok (s.run events) else .error .outOfRange

end LeaseSession

end StartupGate
