/-
# StartupGate.Program -- how the program ends

The exit code is 0 for a command that was carried out and for help and version, 1 for a
configuration that breaks a rule and for a command that fails, and 2 for a command line
that cannot be read.
-/
import StartupGate.Service
import StartupGate.Settings.Validation

set_option autoImplicit false

namespace StartupGate.Program

open StartupGate.Settings (UsageError ConfigError Command)

/-- The name and the version that `--version` shows. -/
def version : String := "podlock 0.1.0"

def about : String := "Bounded, health-aware admission gate for pod startup"

inductive Stop where
  | usage (cause : UsageError)
  | config (cause : ConfigError)
  | failure (cause : Service.Failure)

/-- The end of a run: its exit code, and the first line of each output, if there is one. -/
structure Ending where
  exitCode : Nat
  output : Option String
  errorOutput : Option String
  deriving DecidableEq, Repr

def Ending.clean : Ending := ⟨0, none, none⟩

/-- The end for a command line that is not carried out. -/
def usageEnding : UsageError → Ending
  | .nothingGiven => ⟨2, none, some about⟩
  | .helpAsked => ⟨0, some about, none⟩
  | .versionAsked => ⟨0, some version, none⟩
  | cause => ⟨2, none, cause.firstLine?⟩

def failed (message : String) : Ending := ⟨1, none, some ("Error: " ++ message)⟩

def Stop.ending : Stop → Ending
  | .usage cause => usageEnding cause
  | .config cause => failed cause.message
  | .failure cause => failed cause.message

/-- Reads and validates a command line. -/
def configure (words : List String) (environment : String → Option String) :
    Except Stop Command :=
  match Command.read words environment with
  | .error cause => .error (.usage cause)
  | .ok command =>
      match command.validate with
      | .error cause => .error (.config cause)
      | .ok () => .ok command

/-- Reads, validates and carries out a command line, until the shutdown. -/
def run (w : Service.Surroundings) (shutdown : Millis) (words : List String)
    (environment : String → Option String) : Except Stop Unit :=
  match configure words environment with
  | .error stop => .error stop
  | .ok command =>
      match Service.run w shutdown command with
      | .error cause => .error (.failure cause)
      | .ok () => .ok ()

def endingOf : Except Stop Unit → Ending
  | .error stop => stop.ending
  | .ok () => .clean

end StartupGate.Program
