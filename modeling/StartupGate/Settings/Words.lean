/-
# StartupGate.Settings.Words -- reading command line words and variables

The words after a command's name give settings as `--flag=value`, as `--flag value`, or,
for a truth value, as `--flag`.  A value in a word of its own is read when the next flag
of the command is met or the words end; a word that is no flag of the command and no
value is reported before that.  A word that begins with a dash is never a value in a word
of its own.  After `--` no word is expected.

Variables fill the settings that no flag gave, in the order of the command's settings
(`fillFromEnvironment`), and a setting that is still missing is reported last.
-/
import StartupGate.Settings.UsageError

set_option autoImplicit false

namespace StartupGate.Settings

/-- The values that have been given so far. -/
abbrev Given := Setting → Option (List Value)

namespace Given

def none : Given := fun _ => Option.none

def set (g : Given) (s : Setting) (values : List Value) : Given :=
  fun t => if t = s then some values else g t

def append (g : Given) (s : Setting) (values : List Value) : Given :=
  g.set s ((g s).getD [] ++ values)

end Given

/-- The reading so far: the values, and a setting whose value is a word of its own, with that word
once it has been met. -/
structure Reading where
  given : Given
  pending : Option (Setting × Option String)

def occurrence (g : Given) (s : Setting) (raw : String) : Except UsageError Given :=
  match s.kind.readAll raw with
  | .error (piece, cause) => .error (.badValue s piece cause)
  | .ok values => .ok (g.append s values)

/-- One occurrence on the command line: only a list setting may occur again. -/
def wordOccurrence (g : Given) (s : Setting) (raw : String) : Except UsageError Given :=
  if !s.kind.isList && (g s).isSome then .error (.repeated s) else occurrence g s raw

/-- Reads the pending value, if there is a pending setting. -/
def Reading.settle (r : Reading) : Except UsageError Given :=
  match r.pending with
  | none => .ok r.given
  | some (s, none) => .error (.missingValue s)
  | some (s, some raw) => wordOccurrence r.given s raw

inductive Dashed where
  /-- Two dashes, a name, and the value behind the first `=`. -/
  | long (name : String) (value : Option String)
  /-- One dash and a letter; what follows the letter is not looked at. -/
  | short (letter : Char)
  /-- Two dashes alone. -/
  | terminator
  /-- No dash, or one dash alone. -/
  | plain
  deriving DecidableEq, Repr

def Dashed.ofWord (word : String) : Dashed :=
  match word.toList with
  | ['-', '-'] => .terminator
  | '-' :: '-' :: rest =>
      match Text.splitFirst '=' rest with
      | some (name, value) => .long (String.ofList name) (some (String.ofList value))
      | none => .long (String.ofList rest) none
  | '-' :: letter :: _ => .short letter
  | _ => .plain

def readFlag (r : Reading) (s : Setting) (value : Option String) : Except UsageError Reading :=
  if s.kind = .truth then
    match value with
    | some v => .error (.unexpectedValue ("--" ++ s.flag) v)
    | none => do
        let g ← r.settle
        if (g s).isSome then .error (.repeated s)
        else .ok ⟨g.set s [.truth true], none⟩
  else
    match value with
    | some v => do
        let g ← r.settle
        let g ← wordOccurrence g s v
        return ⟨g, none⟩
    | none => do
        let g ← r.settle
        return ⟨g, some (s, none)⟩

def readWords (c : CommandName) : Reading → List String → Except UsageError Given
  | r, [] => r.settle
  | r, word :: rest =>
      match Dashed.ofWord word with
      | .terminator =>
          match rest with
          | [] => r.settle
          | next :: _ => .error (.unknownArgument next)
      | .long name value =>
          if name = "help" then
            match value with
            | some v => .error (.unexpectedValue "--help" v)
            | none => do
                let _ ← r.settle
                .error .helpAsked
          else match c.setting? name with
            | none => .error (.unknownArgument ("--" ++ name))
            | some s => do
                let r ← readFlag r s value
                readWords c r rest
      | .short letter =>
          if letter = 'h' then do
            let _ ← r.settle
            .error .helpAsked
          else .error (.unknownArgument (String.ofList ['-', letter]))
      | .plain =>
          match r.pending with
          | some (s, none) => readWords c ⟨r.given, some (s, some word)⟩ rest
          | _ => .error (.unknownArgument word)

/-- Fills the settings that are not given from their variables, in order. -/
def fillFromEnvironment (environment : String → Option String) :
    Given → List Setting → Except UsageError Given
  | g, [] => .ok g
  | g, s :: rest =>
      if (g s).isSome then fillFromEnvironment environment g rest
      else match environment s.variableName with
        | none => fillFromEnvironment environment g rest
        | some raw => do
            let g ← occurrence g s raw
            fillFromEnvironment environment g rest

def readGiven (c : CommandName) (words : List String) (environment : String → Option String) :
    Except UsageError Given := do
  let g ← readWords c ⟨Given.none, none⟩ words
  let g ← fillFromEnvironment environment g c.settings
  let missing := c.required.filter fun s => (g s).isNone
  if missing = [] then return g else .error (.missingRequired missing)

/-! ## The first words -/

/-- The words after `help`: at most the name of one command. -/
def readHelp : List String → UsageError
  | [] => .helpAsked
  | word :: rest =>
      if (CommandName.read? word).isSome ∨ word = "help" then
        match rest with
        | [] => .helpAsked
        | next :: _ => .unknownCommand next
      else .unknownCommand word

/-- A word that is no command's name where one is expected. -/
def refuseFirst (word : String) : UsageError :=
  match Dashed.ofWord word with
  | .long name value =>
      if name = "help" ∨ name = "version" then
        match value with
        | some v => .unexpectedValue ("--" ++ name) v
        | none => if name = "help" then .helpAsked else .versionAsked
      else .unknownArgument ("--" ++ name)
  | .short letter =>
      if letter = 'h' then .helpAsked
      else if letter = 'V' then .versionAsked
      else .unknownArgument (String.ofList ['-', letter])
  | _ => .unknownCommand word

/-- Reads a command line: the name of a command and the words after it. -/
def splitCommand : List String → Except UsageError (CommandName × List String)
  | [] => .error .nothingGiven
  | word :: rest =>
      match CommandName.read? word with
      | some c => .ok (c, rest)
      | none =>
          if word = "help" then .error (readHelp rest)
          else if word = "--" then
            match rest with
            | [] => .error .nothingGiven
            | next :: _ =>
                if (CommandName.read? next).isSome ∨ next = "help" then
                  .error (.unknownArgument next)
                else .error (.unknownCommand next)
          else .error (refuseFirst word)

end StartupGate.Settings
