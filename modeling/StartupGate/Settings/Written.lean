/-
# StartupGate.Settings.Written -- writing a configuration as words

Every setting of a configuration becomes an occurrence of its flag: a number or a text
behind an equals sign, a truth value as the bare flag if it holds, and a list, in the style
that is asked for, as one occurrence for each of its elements (`Occurrence.each`) or as one
for all of them (`Occurrence.together`).  Settings that are not set are left out.
-/
import StartupGate.Settings.Command

set_option autoImplicit false

namespace StartupGate.Settings

/-- One occurrence of a setting, with its written value if it takes one. -/
structure Occurrence where
  setting : Setting
  value : Option String
  deriving DecidableEq, Repr

namespace Occurrence

def word (o : Occurrence) : String :=
  "--" ++ o.setting.flag ++
    match o.value with
    | some v => "=" ++ v
    | none => ""

/-- A number is always written. -/
def ofNumber (s : Setting) (n : Nat) : List Occurrence := [⟨s, some (Integer.toText n)⟩]

/-- A text is always written, the empty one, too. -/
def ofText (s : Setting) (text : String) : List Occurrence := [⟨s, some text⟩]

/-- A truth value is written if it holds. -/
def ofTruth (s : Setting) (holds : Bool) : List Occurrence := if holds then [⟨s, none⟩] else []

/-- One occurrence for each element of a list. -/
def each (s : Setting) (texts : List String) : List Occurrence :=
  texts.map fun text => ⟨s, some text⟩

/-- One occurrence for all elements of a list, if there are any. -/
def together (s : Setting) (texts : List String) : List Occurrence :=
  if texts = [] then [] else [⟨s, some (",".intercalate texts)⟩]

end Occurrence

open Occurrence

/-- How the elements of a list become occurrences. -/
abbrev ListStyle := Setting → List String → List Occurrence

namespace CheckSettings

def occurrences (style : ListStyle) (c : CheckSettings) : List Occurrence :=
  style .check (c.endpoints.map Endpoint.source) ++
  ofNumber .endpointPassPeriod c.endpointPassPeriod ++
  ofNumber .endpointFailPeriod c.endpointFailPeriod ++
  ofNumber .endpointTimeout c.endpointTimeout ++
  ofTruth .daemonSetCheck c.daemonSetCheck ++
  ofText .daemonSetNamespace c.daemonSetNamespace ++
  ofTruth .daemonSetHostNetwork c.daemonSetHostNetwork ++
  style .daemonSetInclude (c.daemonSetInclude.map Labels.pairText) ++
  style .daemonSetExclude (c.daemonSetExclude.map Labels.pairText) ++
  ofNumber .daemonSetPassPeriod c.daemonSetPassPeriod ++
  ofNumber .daemonSetFailPeriod c.daemonSetFailPeriod ++
  ofTruth .nodeLoadCheck c.nodeLoadCheck ++
  ofNumber .nodeLoadThreshold c.nodeLoadThreshold ++
  ofNumber .nodeLoadPassPeriod c.nodeLoadPassPeriod ++
  ofNumber .nodeLoadFailPeriod c.nodeLoadFailPeriod ++
  (match c.nodeName with | some name => ofText .nodeName name | none => [])

end CheckSettings

namespace Command

def name : Command → CommandName
  | .lock _ => .lock
  | .health _ => .health
  | .init _ => .init

/-- Every setting of a command, in the order of its settings. -/
def occurrencesIn (style : ListStyle) : Command → List Occurrence
  | .lock s =>
      ofText .gateHost s.host ++ ofNumber .gatePort s.port ++
      ofNumber .parallelLocks s.parallelLocks ++ ofNumber .lockDuration s.lockDuration ++
      s.checks.occurrences style
  | .health s =>
      ofText .gateHost s.host ++ ofNumber .gatePort s.port ++ s.checks.occurrences style
  | .init s =>
      ofText .lockHost s.lockHost ++ ofNumber .lockPort s.lockPort ++
      (match s.duration with | some d => ofNumber .requestDuration d | none => []) ++
      ofNumber .period s.period ++ ofNumber .timeout s.timeout

/-- The words that stand for a command with its settings in a given order. -/
def wordsOf (c : Command) (occurrences : List Occurrence) : List String :=
  c.name.word :: occurrences.map word

end Command

end StartupGate.Settings
