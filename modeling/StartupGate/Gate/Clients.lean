/-
# StartupGate.Gate.Clients -- clients that wait at one gate

Each client sends requests until one is answered with a lease.  Its requests run at the
gate in steps that overlap with all others.  An answer reaches the client while it still
waits for that very request, at any later moment or never; a client may stop waiting
for an answer and ask again, and a shutdown ends it.
-/
import StartupGate.Gate.Interleaving

set_option autoImplicit false

namespace StartupGate

inductive LeaseClientStage where
  /-- Between two requests, or before the first. -/
  | pausing
  /-- Waiting for the answer to the request of a number. -/
  | waiting (request : Nat)
  /-- Answered with the lease of a number by the request of a number. -/
  | holding (request lease : Nat)
  /-- Shut down. -/
  | gone
  deriving DecidableEq, Repr

/-- A client: the parameters it asks with, the requests it has sent, and where it is. -/
structure LeaseClient where
  params : List (String × String)
  sent : List Nat
  stage : LeaseClientStage
  deriving DecidableEq, Repr

/-- A gate and the clients that wait at it. -/
structure WaitingRoom where
  floor : Floor
  clients : List LeaseClient
  deriving DecidableEq, Repr

inductive WaitingEvent where
  | send (client : Nat)
  /-- A client gets the answer it waits for, if there is one. -/
  | deliver (client : Nat)
  | giveUp (client : Nat)
  | shutdown (client : Nat)
  /-- Something happens at the gate; requests of others than the clients may arrive, too. -/
  | floor (event : FloorEvent)
  deriving DecidableEq, Repr

namespace LeaseClient

def new (params : List (String × String)) : LeaseClient := ⟨params, [], .pausing⟩

/-- The client after the outcome of the request it waits for. -/
def receive (c : LeaseClient) (request : Nat) : RequestStage → LeaseClient
  | .answered .granted (some lease) => { c with stage := .holding request lease }
  | .answered _ _ => { c with stage := .pausing }
  | .arrived => c
  | .sawHealthy => c
  | .decided _ _ => c

def giveUp (c : LeaseClient) : LeaseClient :=
  match c.stage with
  | .waiting _ => { c with stage := .pausing }
  | .pausing => c
  | .holding _ _ => c
  | .gone => c

/-- The client after a shutdown; one that holds a lease has ended before. -/
def shutdown (c : LeaseClient) : LeaseClient :=
  match c.stage with
  | .waiting _ => { c with stage := .gone }
  | .pausing => { c with stage := .gone }
  | .holding _ _ => c
  | .gone => c

end LeaseClient

namespace WaitingRoom

def new (gate : Gate) (clients : List (List (String × String))) : WaitingRoom :=
  ⟨.new gate, clients.map .new⟩

def send (w : WaitingRoom) (i : Nat) : WaitingRoom :=
  match w.clients[i]? with
  | none => w
  | some c =>
      match c.stage with
      | .pausing =>
          let number := w.floor.requests.length
          ⟨w.floor.step (.arrive c.params),
            w.clients.set i { c with sent := c.sent ++ [number], stage := .waiting number }⟩
      | .waiting _ => w
      | .holding _ _ => w
      | .gone => w

def deliver (w : WaitingRoom) (i : Nat) : WaitingRoom :=
  match w.clients[i]? with
  | none => w
  | some c =>
      match c.stage with
      | .waiting number =>
          match w.floor.requests[number]? with
          | none => w
          | some r => { w with clients := w.clients.set i (c.receive number r.stage) }
      | .pausing => w
      | .holding _ _ => w
      | .gone => w

def step (w : WaitingRoom) : WaitingEvent → WaitingRoom
  | .send i => w.send i
  | .deliver i => w.deliver i
  | .giveUp i => { w with clients := w.clients.modify i LeaseClient.giveUp }
  | .shutdown i => { w with clients := w.clients.modify i LeaseClient.shutdown }
  | .floor event => { w with floor := w.floor.step event }

def run (w : WaitingRoom) (events : List WaitingEvent) : WaitingRoom := events.foldl step w

def heldLeases (w : WaitingRoom) : List Nat :=
  w.clients.filterMap fun c =>
    match c.stage with
    | .holding _ lease => some lease
    | .pausing => none
    | .waiting _ => none
    | .gone => none

/-- How many clients hold a lease that covers an instant. -/
def holdersAt (w : WaitingRoom) (t : Instant) : Nat :=
  (w.heldLeases.filter fun lease => w.floor.grants[lease]?.any (LeaseHistory.covers t)).length

end WaitingRoom

end StartupGate
