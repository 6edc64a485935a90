/-
# StartupGate.Proofs.Settings.Texts -- the texts that are written for a list setting

A list setting may be written several times among the words, with several values each time, or once in
its variable.  `Setting.written` says what is written for it without reading anything else: the pieces of
all those texts, in order.

* `Accepted.gathers`: what accepted words give to a list setting are the values of the texts behind its
  flag.
* `gather_written`: no written value is lost, and none is added or moved.
* `read_pairs`: so the label pairs of a command are those that are written for it.
-/
import StartupGate.Proofs.Settings.Sources

set_option autoImplicit false

namespace StartupGate.Settings

variable {c : CommandName} {s t : Setting} {g g' filled : Given} {r : Reading}
  {words raws more rest : List String} {word raw : String} {values others : List Value}
  {environment : String → Option String} {settings : List Setting}

namespace Setting

/-- The text that a word gives to a setting: the one behind its flag, in the same word or in the next. -/
def textAt (s : Setting) (word : String) (rest : List String) : List String :=
  match Dashed.ofWord word with
  | .long name (some text) => if name = s.flag then [text] else []
  | .long name none => if name = s.flag then rest.take 1 else []
  | _ => []

/-- The texts that words give to a setting. -/
def textsIn (s : Setting) : List String → List String
  | [] => []
  | word :: rest => s.textAt word rest ++ s.textsIn rest

/-- The texts that are written for a setting: those among the words or, without any, its variable. -/
def texts (s : Setting) (words : List String) (environment : String → Option String) : List String :=
  if s.textsIn words = [] then (environment s.variableName).toList else s.textsIn words

/-- The single values that are written for a setting. -/
def written (s : Setting) (words : List String) (environment : String → Option String) : List String :=
  (s.texts words environment).flatMap s.kind.pieces

theorem textAt_attached (ofCommand : s ∈ c.settings) (ofCommand' : t ∈ c.settings)
    (form : Dashed.ofWord word = .long t.flag (some raw)) :
    s.textAt word rest = if t = s then [raw] else [] := by
  simp only [textAt, form]
  by_cases own : t = s
  · rw [if_pos own, if_pos (congrArg flag own)]
  · rw [if_neg own, if_neg fun same => own (flag_inj ofCommand' ofCommand same)]

theorem textAt_awaiting (ofCommand : s ∈ c.settings) (ofCommand' : t ∈ c.settings)
    (form : Dashed.ofWord word = .long t.flag none) :
    s.textAt word rest = if t = s then rest.take 1 else [] := by
  simp only [textAt, form]
  by_cases own : t = s
  · rw [if_pos own, if_pos (congrArg flag own)]
  · rw [if_neg own, if_neg fun same => own (flag_inj ofCommand' ofCommand same)]

theorem textAt_plain (form : Dashed.ofWord word = .plain) : s.textAt word rest = [] := by
  simp only [textAt, form]

theorem textAt_terminator (form : Dashed.ofWord word = .terminator) : s.textAt word rest = [] := by
  simp only [textAt, form]

end Setting

/-! ## Values that come together -/

theorem readPieces_append {k : Kind} (read : k.readPieces raws = .ok values)
    (read' : k.readPieces more = .ok others) : k.readPieces (raws ++ more) = .ok (values ++ others) := by
  induction raws generalizing values with
  | nil =>
      cases read
      exact read'
  | cons piece rest ih =>
      rw [Kind.readPieces] at read
      cases first : k.read piece with
      | error cause => simp [first] at read
      | ok value =>
          cases later : k.readPieces rest with
          | error cause => simp [first, later] at read
          | ok values' =>
              simp only [first, later, Except.ok.injEq] at read
              subst read
              simp only [List.cons_append, Kind.readPieces, first, ih later]

/-- The texts are readable for a setting, and their values come behind those it had before. -/
def Gathers (s : Setting) (raws : List String) (before after : Option (List Value)) : Prop :=
  ∃ values, s.kind.readPieces (raws.flatMap s.kind.pieces) = .ok values ∧
    after = if raws = [] then before else some (before.getD [] ++ values)

namespace Gathers

variable {before between after : Option (List Value)}

theorem none (s : Setting) (before : Option (List Value)) : Gathers s [] before before :=
  ⟨[], rfl, rfl⟩

theorem one (read : s.kind.readAll raw = .ok values) :
    Gathers s [raw] before (some (before.getD [] ++ values)) := by
  refine ⟨values, ?_, rfl⟩
  rw [List.flatMap_singleton]
  exact read

theorem trans (first : Gathers s raws before between) (second : Gathers s more between after) :
    Gathers s (raws ++ more) before after := by
  obtain ⟨values, read, rfl⟩ := first
  obtain ⟨others, read', rfl⟩ := second
  refine ⟨values ++ others, ?_, ?_⟩
  · rw [List.flatMap_append]
    exact readPieces_append read read'
  · by_cases noText : raws = []
    · subst noText
      cases read
      simp
    · by_cases noMore : more = []
      · subst noMore
        cases read'
        simp
      · simp [noText, noMore]

/-- Where nothing was given before, any text gives something. -/
theorem isSome_iff (gathers : Gathers s raws Option.none after) : after.isSome = true ↔ raws ≠ [] := by
  obtain ⟨values, -, rfl⟩ := gathers
  by_cases noText : raws = [] <;> simp [noText]

/-- Where nothing was given before, all values are those of the texts. -/
theorem read (gathers : Gathers s raws Option.none after) :
    s.kind.readPieces (raws.flatMap s.kind.pieces) = .ok (after.getD []) := by
  obtain ⟨values, read, rfl⟩ := gathers
  by_cases noText : raws = []
  · subst noText
    rfl
  · rw [if_neg noText]
    exact read

end Gathers

/-! ## Values from words -/

theorem gathers_of_wordOccurrence (s : Setting) (ok : wordOccurrence g t raw = .ok g') :
    Gathers s (if t = s then [raw] else []) (g s) (g' s) := by
  obtain ⟨-, values, read, rfl⟩ := wordOccurrence_eq_ok_iff.mp ok
  by_cases own : t = s
  · subst own
    rw [if_pos rfl, Given.append, Given.set_self]
    exact .one read
  · rw [if_neg own, g.append_other values (Ne.symm own)]
    exact .none s (g s)

/-- The text for a setting that a reading has met and not read, or that is the next word. -/
def Reading.textsFor (r : Reading) (s : Setting) (rest : List String) : List String :=
  match r.pending with
  | some (t, some raw) => if t = s then [raw] else []
  | some (t, none) => if t = s then rest.take 1 else []
  | none => []

theorem Reading.gathers_of_settle (s : Setting) (rest : List String) (ok : r.settle = .ok g) :
    Gathers s (r.textsFor s rest) (r.given s) (g s) := by
  rcases settle_eq_ok_iff.mp ok with ⟨nothing, rfl⟩ | ⟨t, raw, waits, read⟩
  · simp only [textsFor, nothing]
    exact .none s (r.given s)
  · simp only [textsFor, waits]
    exact gathers_of_wordOccurrence s read

/-- A list setting is no truth value. -/
theorem Kind.ne_truth_of_isList {k : Kind} (isList : k.isList = true) : k ≠ .truth := by
  rintro rfl
  cases isList

/-- **Accepted words give a list setting the values of the texts behind its flag.** -/
theorem Accepted.gathers (accepted : Accepted c r words g) (ofCommand : s ∈ c.settings)
    (isList : s.kind.isList = true) :
    Gathers s (r.textsFor s words ++ s.textsIn words) (r.given s) (g s) := by
  induction accepted with
  | done settles =>
      rw [Setting.textsIn, List.append_nil]
      exact Reading.gathers_of_settle s [] settles
  | @terminated r g word form settles =>
      rw [Setting.textsIn, Setting.textAt_terminator form, Setting.textsIn, List.append_nil,
        List.append_nil]
      exact Reading.gathers_of_settle s [word] settles
  | @bare r g g' word rest t ofCommand' form truth settles _ _ ih =>
      -- a flag without a value is none of a list setting
      have other : t ≠ s := by
        rintro rfl
        exact Kind.ne_truth_of_isList isList truth
      have kept : g.set t [.truth true] s = g s := Given.set_other g _ other.symm
      change Gathers s (s.textsIn rest) (g.set t [.truth true] s) (g' s) at ih
      rw [kept] at ih
      rw [Setting.textsIn, Setting.textAt_awaiting ofCommand ofCommand' form, if_neg other]
      exact (Reading.gathers_of_settle s (word :: rest) settles).trans ih
  | @attached r g g₁ g' word raw rest t ofCommand' form _ settles read _ ih =>
      rw [Setting.textsIn, Setting.textAt_attached ofCommand ofCommand' form]
      exact (Reading.gathers_of_settle s (word :: rest) settles).trans
        ((gathers_of_wordOccurrence s read).trans ih)
  | @awaiting r g g' word rest t ofCommand' form _ settles _ ih =>
      rw [Setting.textsIn, Setting.textAt_awaiting ofCommand ofCommand' form]
      exact (Reading.gathers_of_settle s (word :: rest) settles).trans ih
  | value form _ ih =>
      rw [Setting.textsIn, Setting.textAt_plain form]
      exact ih

/-! ## Values from variables -/

theorem fill_other (ok : fillFromEnvironment environment g settings = .ok filled)
    (notAmong : s ∉ settings) : filled s = g s := by
  induction settings generalizing g with
  | nil =>
      cases ok
      rfl
  | cons t rest ih =>
      obtain ⟨other, notLater⟩ := not_or.mp (List.mem_cons.not.mp notAmong)
      obtain ⟨g', one, goesOn⟩ := filled_of_fill ok
      cases one with
      | kept => exact ih goesOn notLater
      | added => exact (ih goesOn notLater).trans (g.append_other _ other)

/-- The text of a variable is that of a setting which no word gives. -/
def variableTexts (environment : String → Option String) (g : Given) (s : Setting) : List String :=
  if (g s).isSome then [] else (environment s.variableName).toList

theorem Filled.gathers (one : Filled environment g s g') :
    Gathers s (variableTexts environment g s) (g s) (g' s) := by
  cases one with
  | kept why =>
      have silent : variableTexts environment g s = [] := by
        rw [variableTexts]
        rcases why with given | unset
        · rw [if_pos given]
        · rw [unset, Option.toList_none, ite_self]
      rw [silent]
      exact .none s (g s)
  | added absent set read =>
      rw [variableTexts, absent, set, Given.append, Given.set_self, absent]
      exact .one read

/-- **A variable gives its setting a value if no word does.** -/
theorem fill_gathers (ok : fillFromEnvironment environment g settings = .ok filled)
    (once : settings.Nodup) (among : s ∈ settings) :
    Gathers s (variableTexts environment g s) (g s) (filled s) := by
  induction settings generalizing g with
  | nil => cases among
  | cons t rest ih =>
      obtain ⟨notAgain, once'⟩ := List.nodup_cons.mp once
      obtain ⟨g', one, goesOn⟩ := filled_of_fill ok
      by_cases own : t = s
      · subst own
        rw [fill_other goesOn notAgain]
        exact one.gathers
      · have among' : s ∈ rest := (List.mem_cons.mp among).resolve_left (Ne.symm own)
        have later := ih goesOn once' among'
        cases one with
        | kept => exact later
        | @added _ values =>
            rw [variableTexts, g.append_other values (Ne.symm own)] at later
            exact later

/-! ## All of it -/

/-- **No value written for a list setting is lost, and none is added or moved.** -/
theorem gather_written (ofCommand : s ∈ c.settings) (isList : s.kind.isList = true)
    (ok : gather c words environment = .ok g) :
    s.kind.readPieces (s.written words environment) = .ok ((g s).getD []) := by
  obtain ⟨g₁, read, fills⟩ := bind_eq_ok_iff.mp ok
  have fromWords : Gathers s (s.textsIn words) none (g₁ s) :=
    (accepted_of_readWords read).gathers ofCommand isList
  have all := fromWords.trans (fill_gathers fills (settings_nodup c) ofCommand)
  have together : s.textsIn words ++ variableTexts environment g₁ s = s.texts words environment := by
    by_cases noFlag : s.textsIn words = [] <;>
      simp [Setting.texts, variableTexts, fromWords.isSome_iff, noFlag]
  rw [together] at all
  exact all.read

/-- The settings of the health checks, if a command has them. -/
def Command.checks? : Command → Option CheckSettings
  | .lock settings => some settings.checks
  | .health settings => some settings.checks
  | .init _ => none

/-- Every piece is read as the pair at its place. -/
abbrev ReadAsPairs (pieces : List String) (pairs : List (String × String)) : Prop :=
  List.Forall₂ (fun piece pair => Labels.readPair piece = .ok pair) pieces pairs

theorem readAsPairs_of_readPieces {pieces : List String}
    (read : Kind.labels.readPieces pieces = .ok values) :
    ReadAsPairs pieces (values.filterMap fun
      | .label key value => some (key, value)
      | _ => none) := by
  induction pieces generalizing values with
  | nil =>
      cases read
      exact .nil
  | cons piece rest ih =>
      rw [Kind.readPieces, Kind.read] at read
      cases first : Labels.readPair piece with
      | error cause => simp [first] at read
      | ok pair =>
          cases later : Kind.labels.readPieces rest with
          | error cause => simp [first, later] at read
          | ok others =>
              simp only [first, later, Except.ok.injEq] at read
              subst read
              exact .cons first (ih later)

/-- **The label pairs of a command are those that are written for it**, all of them and in order. -/
theorem read_pairs {command : Command} {checks : CheckSettings}
    (ok : Command.read (c.word :: words) environment = .ok command)
    (hasChecks : command.checks? = some checks) :
    ReadAsPairs (Setting.written .daemonSetInclude words environment) checks.daemonSetInclude ∧
      ReadAsPairs (Setting.written .daemonSetExclude words environment) checks.daemonSetExclude := by
  rw [read_eq] at ok
  obtain ⟨g, gathered, finished⟩ := bind_eq_ok_iff.mp ok
  rw [finish] at finished
  split at finished
  · cases finished
    have labels : ∀ {s : Setting}, s.kind = .labels → s ∈ c.settings →
        ReadAsPairs (s.written words environment) (g.pairs s) := by
      intro s kind ofCommand
      have read := gather_written ofCommand (by rw [kind]; rfl) gathered
      rw [kind] at read
      exact readAsPairs_of_readPieces read
    cases c with
    | lock =>
        cases hasChecks
        exact ⟨labels rfl (by decide), labels rfl (by decide)⟩
    | health =>
        cases hasChecks
        exact ⟨labels rfl (by decide), labels rfl (by decide)⟩
    | init => cases hasChecks
  · cases finished

end StartupGate.Settings
