/-
# StartupGate.Health.EndpointCheck -- whether every endpoint can be reached

The endpoints are probed in order up to the first that is not reached.
-/
import StartupGate.Network.Probe

set_option autoImplicit false

namespace StartupGate

structure EndpointCheck where
  endpoints : List Endpoint
  timeout : Duration

namespace EndpointCheck

def name : String := "endpoints"

/-- Probes endpoints in order up to the first failure; gives the verdict and those probed. -/
def probeAll (reached : Endpoint → Bool) : List Endpoint → Bool × List Endpoint
  | [] => (true, [])
  | e :: rest =>
      if reached e then
        let (healthy, probed) := probeAll reached rest
        (healthy, e :: probed)
      else (false, [e])

def reaches (net : Network) (timeout : Duration) (e : Endpoint) : Bool :=
  match Probe.endpoint net timeout e with
  | .ok _ => true
  | .error _ => false

def run (c : EndpointCheck) (net : Network) : Bool × List Endpoint :=
  probeAll (reaches net c.timeout) c.endpoints

end EndpointCheck

end StartupGate
