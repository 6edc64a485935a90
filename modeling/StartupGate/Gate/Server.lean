/-
# StartupGate.Gate.Server -- the HTTP face of the gate and of the health status

Both servers have two pages: `/`, which asks for a lease or shows overall health, and
`/metrics`.  Paths are exact.  A page is read with GET or HEAD; HEAD does all that GET
does, a lease included, and leaves out the body.
-/
import StartupGate.Gate.Admission
import StartupGate.Http
import StartupGate.Text.FormEncoded

set_option autoImplicit false

namespace StartupGate

inductive ServerRole where
  | gate | status
  deriving DecidableEq, Repr

namespace Gate

/-! ## Pages -/

def plainText : String := "text/plain; charset=utf-8"

def expositionText : String := "text/plain; version=0.0.4"

/-- The status and body for an outcome; a request that is denied is not told why. -/
def outcomeAnswer : LeaseOutcome → Nat × String
  | .granted => (200, "Lock acquired")
  | .locked => (423, "Locked")
  | .unhealthy => (423, "Locked")

def healthAnswer (healthy : Bool) : Nat × String :=
  if healthy then (200, "Healthy") else (412, "Unhealthy")

/-- Answers a request for a lease with decoded parameters. -/
def call (g : Gate) (now : Instant) (params : List (String × String)) : (Nat × String) × Gate :=
  let (outcome, g) := g.requestLease now params
  (outcomeAnswer outcome, g)

inductive Page where
  | main | metrics
  deriving DecidableEq, Repr

def Page.ofPath? (path : List Char) : Option Page :=
  if path = ['/'] then some .main
  else if path = "/metrics".toList then some .metrics
  else none

def showPage (role : ServerRole) (g : Gate) (now : Instant) (page : Page) (query : List Char) :
    Http.Response × Gate :=
  match page, role with
  | .main, .gate =>
      let ((status, body), g) := g.call now (FormEncoded.decodePairs query)
      (⟨status, body, some plainText, none⟩, g)
  | .main, .status =>
      let (status, body) := healthAnswer g.isHealthy
      (⟨status, body, some plainText, none⟩, g)
  | .metrics, _ => (⟨200, g.metrics.text, some expositionText, none⟩, g)

/-- The parameters with which a request asks for a lease, if it asks for one. -/
def leaseParams? (role : ServerRole) (request : Http.Request) : Option (List (String × String)) :=
  let target := Http.Target.read request.target
  if role = .gate ∧ Page.ofPath? target.path = some .main ∧
      (request.method = "GET" ∨ request.method = "HEAD") then
    some (FormEncoded.decodePairs target.query)
  else none

/-- The answer where there is no page. -/
def notFound : Http.Response := ⟨404, "", none, none⟩

/-- The answer to a method that no page takes. -/
def notAllowed : Http.Response := ⟨405, "", none, some "GET,HEAD"⟩

def respond (role : ServerRole) (g : Gate) (now : Instant) (request : Http.Request) :
    Http.Response × Gate :=
  let target := Http.Target.read request.target
  match Page.ofPath? target.path with
  | none => (notFound, g)
  | some page =>
      if request.method = "GET" then showPage role g now page target.query
      else if request.method = "HEAD" then
        let (response, g) := showPage role g now page target.query
        ({ response with body := "" }, g)
      else (notAllowed, g)

end Gate

end StartupGate
