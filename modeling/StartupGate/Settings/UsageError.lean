/-
# StartupGate.Settings.UsageError -- why a command line is not carried out

Asking for help or for the version ends the reading as an error does, so both are among
the causes.  `UsageError.firstLine?` is the first line shown for a cause.
-/
import StartupGate.Settings.Setting

set_option autoImplicit false

namespace StartupGate.Settings

inductive UsageError where
  /-- There are no words at all. -/
  | nothingGiven
  | helpAsked
  | versionAsked
  | unknownCommand (word : String)
  /-- A flag that is none, or a word where none is expected. -/
  | unknownArgument (word : String)
  | missingValue (setting : Setting)
  | badValue (setting : Setting) (value : String) (cause : ValueError)
  /-- A setting that is no list is given twice. -/
  | repeated (setting : Setting)
  /-- A value for a flag that takes none. -/
  | unexpectedValue (flag : String) (value : String)
  | missingRequired (settings : List Setting)
  deriving DecidableEq, Repr

namespace UsageError

/-- The first line of the report, for the causes that are faults of the command line. -/
def firstLine? : UsageError → Option String
  | .nothingGiven => none
  | .helpAsked => none
  | .versionAsked => none
  | .unknownCommand word => some ("error: unrecognized subcommand '" ++ word ++ "'")
  | .unknownArgument word => some ("error: unexpected argument '" ++ word ++ "' found")
  | .missingValue s =>
      some ("error: a value is required for '" ++ s.display ++ "' but none was supplied")
  | .badValue s value cause =>
      some ("error: invalid value '" ++ value ++ "' for '" ++ s.display ++ "'" ++
        (match cause.message? with | some m => ": " ++ m | none => ""))
  | .repeated s =>
      some ("error: the argument '" ++ s.display ++ "' cannot be used multiple times")
  | .unexpectedValue flag value =>
      some ("error: unexpected value '" ++ value ++ "' for '" ++ flag ++
        "' found; no more were expected")
  | .missingRequired _ => some "error: the following required arguments were not provided:"

end UsageError

end StartupGate.Settings
