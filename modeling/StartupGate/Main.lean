/-
# StartupGate.Main -- the program on standard input and output

The process opens no sockets.  A server takes one request a line from standard input, a
method and a target, and writes the status and the body of its answer; the end of the
input is its shutdown.  A client takes the statuses that its requests were answered with,
one a line, and ends with the first that grants a lease, or with the end of the input.
-/
import StartupGate.Program

set_option autoImplicit false

namespace StartupGate.Main

open StartupGate.Settings (CommandName Command InitSettings)

/-- The variables of the process that a command looks at. -/
def readEnvironment : IO (List (String × String)) := do
  let names := (CommandName.settings .lock ++ CommandName.settings .init).map (·.variableName)
  let values ← names.mapM fun name => return (← IO.getEnv name).map fun value => (name, value)
  return values.filterMap id

/-- A process without a network and without a cluster; every address is free. -/
def surroundings : Service.Surroundings := ⟨.isolated, none, fun _ _ => true⟩

/-- The request written by a line: a method, a blank and a target. -/
def requestOfLine (line : String) : Http.Request :=
  let cs := Text.trim line.toList
  ⟨String.ofList (cs.takeWhile (· ≠ ' ')), String.ofList ((cs.dropWhile (· ≠ ' ')).drop 1)⟩

def responseLine (r : Http.Response) : String := Integer.toText r.status ++ " " ++ r.body

partial def serve (started : Nat) (server : Server) : IO Unit := do
  let line ← (← IO.getStdin).getLine
  if line.isEmpty then return
  let elapsed := (← IO.monoMsNow) - started
  let (response, server) := (server.advance elapsed).request (requestOfLine line)
  IO.println (responseLine response)
  (← IO.getStdout).flush
  serve started server

partial def readStatuses (statuses : Array Nat) : IO (Array Nat) := do
  let line ← (← IO.getStdin).getLine
  if line.isEmpty then return statuses
  readStatuses (statuses.push ((Integer.readUnsigned Integer.maxUnsigned16
    (Text.trim line.toList)).toOption.getD 0))

/-- The requests of a client with the statuses they were answered with. -/
def pollsOf (statuses : Array Nat) (k : Nat) : LockClient.Poll :=
  match statuses[k]? with
  | some status => .ends (.ok status) 0
  | none => .hangs

def await (s : InitSettings) : IO (Except Service.Failure Unit) := do
  let statuses ← readStatuses #[]
  let wait := Service.clientWait s (pollsOf statuses) none (statuses.size + 1)
  return Service.clientResult s wait

def serveWith (opened : Except Service.Failure Server) : IO (Except Service.Failure Unit) :=
  match opened with
  | .error cause => return .error cause
  | .ok server => do
      serve (← IO.monoMsNow) server
      return .ok ()

def carryOut : Command → IO (Except Service.Failure Unit)
  | .lock s => serveWith (Service.openGate surroundings s)
  | .health s => serveWith (Service.openStatus surroundings s)
  | .init s => await s

def report (ending : Program.Ending) : IO UInt32 := do
  if let some line := ending.output then IO.println line
  if let some line := ending.errorOutput then IO.eprintln line
  return ending.exitCode.toUInt32

end StartupGate.Main

open StartupGate in
def main (words : List String) : IO UInt32 := do
  let known ← Main.readEnvironment
  match Program.configure words fun name => known.lookup name with
  | .error stop => Main.report stop.ending
  | .ok command =>
      match ← Main.carryOut command with
      | .error cause => Main.report (Program.Stop.failure cause).ending
      | .ok () => Main.report .clean
