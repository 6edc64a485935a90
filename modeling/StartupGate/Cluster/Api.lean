/-
# StartupGate.Cluster.Api -- reading the cluster through its HTTP API

A read is one GET request, tried again by the retry policy until an answer is accepted.
An answer is accepted if its status is no error status and its body decodes; what is
wrong inside a decoded object is not tried again.

`Api.read` takes what the API does beforehand (`Answers`), so that a read is a function
of the policy and of those answers, and its result says which requests were sent and when.
-/
import StartupGate.Cluster.Reader
import StartupGate.Http
import StartupGate.Json.Parser
import StartupGate.Text.FormEncoded

set_option autoImplicit false

namespace StartupGate.Cluster.Api

open StartupGate.Retry (Policy Attempt Run)

/-! ## Requests -/

/-- The target of a read; the parts of a path are inserted as they are. -/
def target : Read → String
  | .node name => "/api/v1/nodes/" ++ name
  | .nodeUsage name => "/apis/metrics.k8s.io/v1beta1/nodes/" ++ name
  | .daemonSets none => "/apis/apps/v1/daemonsets?"
  | .daemonSets (some ns) => "/apis/apps/v1/namespaces/" ++ ns ++ "/daemonsets?"
  | .nodePods name =>
      "/api/v1/pods?&fieldSelector=" ++
        String.ofList (FormEncoded.encode ("spec.nodeName=" ++ name).toList)

/-- A read of one object needs the object's name. -/
def hasName : Read → Bool
  | .node name => name ≠ ""
  | .nodeUsage name => name ≠ ""
  | .daemonSets _ => true
  | .nodePods _ => true

def isPathChar (c : Char) : Bool :=
  let n := c.toNat
  n = 0x21 || n = 0x22 || (0x24 ≤ n && n ≤ 0x3b) || n = 0x3d || (0x40 ≤ n && n ≤ 0x5f) ||
    (0x61 ≤ n && n ≤ 0x7e) || 0x80 ≤ n

def isQueryChar (c : Char) : Bool :=
  let n := c.toNat
  n = 0x21 || (0x24 ≤ n && n ≤ 0x3b) || n = 0x3d || (0x3f ≤ n && n ≤ 0x7e) || 0x80 ≤ n

def maxTargetBytes : Nat := 65534

/-- The target as it is sent: without a fragment, and only if it is not too long and holds no
character that a target may not hold. -/
def sendable? (t : String) : Option String :=
  let cs := t.toList.takeWhile (· ≠ '#')
  let path := cs.takeWhile (· ≠ '?')
  let query := (cs.dropWhile (· ≠ '?')).drop 1
  -- The limit is on the target as it was written, so a fragment counts.
  if path.all isPathChar && query.all isQueryChar && t.utf8ByteSize ≤ maxTargetBytes then
    some (String.ofList cs)
  else none

/-- The target of a read, if the request can be written. -/
def requestTarget? (r : Read) : Option String :=
  if hasName r then sendable? (target r) else none

/-! ## Answers -/

inductive Answer where
  | answered (status : Nat) (body : String)
  | failed (reason : String)
  | silent
  deriving DecidableEq, Repr

/-- What the API does with each request, counted from zero. -/
abbrev Answers := Nat → Answer

def readText (tree : Json.Tree) : Option String := tree.leaf?.bind Json.string?

/-- The status object in the body of an answer with an error status: an object with its four fields
at most once each, or the list of them. -/
def readStatus : Json.Tree → Option ApiStatus
  | .array [status, message, reason, code] => do
      return {
        status := ← readText status
        code := ← code.leaf?.bind (Json.natUpTo? Integer.maxUnsigned16)
        reason := ← readText reason
        message := ← readText message }
  | tree => do
      let fields ← tree.fields?
      guard (["status", "message", "reason", "code"].all (Json.Tree.isUnrepeated fields))
      let textOr (name : String) : Option String :=
        match fields.lookup name with
        | none => some ""
        | some field => readText field
      return {
        status := ← (fields.lookup "status").bind readText
        code := ← (← fields.lookup "code").leaf?.bind (Json.natUpTo? Integer.maxUnsigned16)
        reason := ← textOr "reason"
        message := ← textOr "message" }

/-- What an answer with an error status says; a body that is no status object is quoted. -/
def statusOf (status : Nat) (body : String) : ApiStatus :=
  match (Json.Tree.parse? body).bind readStatus with
  | some s => s
  | none => ⟨Http.statusText status, status, "Failed to parse error data", Text.quotedText body⟩

def isErrorStatus (status : Nat) : Bool := 400 ≤ status && status < 600

/-- Reads what is in a tree nested at most `depth` deep. -/
abbrev Decoder (α : Type) := (depth : Nat) → Json.Tree → Option α

def accept {α : Type} (decode : Decoder α) (status : Nat) (body : String) :
    Except ApiFailure α :=
  if isErrorStatus status then .error (.refused (statusOf status body))
  else match (Json.Tree.parse? body).bind (decode Json.maxDepth) with
    | some value => .ok value
    | none => .error .undecodable

/-- An answer as an attempt.  The API answers at once or never. -/
def Answer.attempt {α : Type} (decode : Decoder α) : Answer → Attempt ApiFailure α
  | .answered status body => .ends (accept decode status body) 0
  | .failed reason => .ends (.error (.unreachable reason)) 0
  | .silent => .hangs

/-! ## Reads -/

/-- How the requests of a process are made: the retry policy, the drawn shares of jitter, and the
instant of the shutdown. -/
structure Client where
  policy : Policy
  shares : Nat → Binary64
  shutdown : Option Millis

structure Sent where
  time : Millis
  target : String
  deriving DecidableEq, Repr

structure Exchange (α : Type) where
  result : Except Error α
  sent : List Sent

def attempts {α : Type} (request : Option String) (answers : Answers) (decode : Decoder α) :
    Nat → Attempt ApiFailure α :=
  fun k => match request with
    | none => .ends (.error .badRequest) 0
    | some _ => (answers k).attempt decode

def resultOf {α : Type} (run : Run ApiFailure α) : Except Error α :=
  match run.outcome with
  | .done value => .ok value
  | .exhausted attempts last => .error (.api (.exhausted attempts last))
  | .cancelled attempts => .error (.api (.cancelled attempts))
  | .noDelay cause => .error (.noDelay cause)
  | .endless => .error .endless

def read {α : Type} (c : Client) (r : Read) (answers : Answers) (decode : Decoder α) :
    Exchange α :=
  let request := requestTarget? r
  let run := Retry.run c.policy c.shares (attempts request answers decode) c.shutdown
  ⟨resultOf run, match request with
    | none => []
    | some t => run.calls.map fun time => ⟨time, t⟩⟩

/-- Goes on with what a read gave; no more requests are sent. -/
def Exchange.andThen {α β : Type} (e : Exchange α) (f : α → Except Error β) : Exchange β :=
  ⟨match e.result with
    | .error cause => .error cause
    | .ok value => f value, e.sent⟩

def node (c : Client) (name : String) (answers : Answers) : Exchange Node :=
  read c (.node name) answers Node.ofTree?

/-- Fetches the CPU usage of a node in milli-CPU. -/
def nodeUsage (c : Client) (name : String) (answers : Answers) : Exchange Nat :=
  (read c (.nodeUsage name) answers readMetricsObject).andThen usageMillis

/-- Lists the DaemonSets of a namespace, or of all. -/
def daemonSets (c : Client) (namespaceName : Option String) (answers : Answers) :
    Exchange (List DaemonSet) :=
  read c (.daemonSets namespaceName) answers (readListObject DaemonSet.ofTree?)

def nodePods (c : Client) (name : String) (answers : Answers) : Exchange (List Pod) :=
  read c (.nodePods name) answers (readListObject Pod.ofTree?)

/-- The instant at which an unanswered request leaves a read waiting, if it comes to that. -/
def waitingFrom {α : Type} (c : Client) (r : Read) (answers : Answers) (decode : Decoder α) :
    Option Millis :=
  let run := Retry.run c.policy c.shares (attempts (requestTarget? r) answers decode) none
  match run.outcome with
  | .endless => some run.finished
  | _ => none

end StartupGate.Cluster.Api
