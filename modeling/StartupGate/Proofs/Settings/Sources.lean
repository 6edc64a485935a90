/-
# StartupGate.Proofs.Settings.Sources -- flags and variables

A setting is given by its flag or, where no flag gives it, by its variable.  Both ways lead through
the same reading of a written value, but at different points: a flag is read among the other words, and
a variable after all of them, in the order of the settings.

* `fill_congr`: only the variables of settings that no flag gives are looked at.
* `readGiven_word`, `readGiven_variable`: what comes of a value behind a flag and of a value in a
  variable, with all other words and variables acceptable (`Admits`).
* `same_by_flag_and_variable`: that it is the same, and that a flag makes the variable irrelevant.
-/
import StartupGate.Proofs.Settings.Words

set_option autoImplicit false

namespace StartupGate.Settings

variable {c : CommandName} {s : Setting} {g filled : Given} {environment : String → Option String}
  {settings : List Setting} {v : String} {values : List Value}

/-! ## Reading a command -/

/-- The command with the given values, unless a setting that it cannot do without is missing. -/
def finish (c : CommandName) (g : Given) : Except UsageError Command :=
  let missing := c.required.filter fun s => (g s).isNone
  if missing = [] then .ok (g.command c) else .error (.missingRequired missing)

/-- The values that the words give and, for the rest, the variables. -/
def gather (c : CommandName) (words : List String) (environment : String → Option String) :
    Except UsageError Given :=
  readWords c .start words >>= fun g => fillFromEnvironment environment g c.settings

/-- **Reading a command is reading its words, then its variables, then looking for what is missing.** -/
theorem read_eq (c : CommandName) (words : List String) (environment : String → Option String) :
    Command.read (c.word :: words) environment = (gather c words environment >>= finish c) := by
  have named : splitCommand (c.word :: words) = .ok (c, words) := by cases c <;> rfl
  have start : readWords c ⟨Given.none, none⟩ words = readWords c .start words := rfl
  rw [Command.read, named, gather]
  simp only [bind, Except.bind, readGiven, start]
  cases readWords c .start words with
  | error cause => rfl
  | ok g =>
      simp only
      cases fillFromEnvironment environment g c.settings with
      | error cause => rfl
      | ok filled =>
          simp only [finish]
          by_cases complete : (c.required.filter fun s => (filled s).isNone) = []
          · simp only [complete, if_true]
            rfl
          · simp only [complete, if_false]

/-! ## Variables -/

/-- An environment with another value of one variable. -/
def withVariable (environment : String → Option String) (s : Setting) (v : String) :
    String → Option String :=
  fun name => if name = s.variableName then some v else environment name

theorem fill_cons_given {rest : List Setting} (given : (g s).isSome) :
    fillFromEnvironment environment g (s :: rest) = fillFromEnvironment environment g rest :=
  if_pos given

theorem fill_cons_unset {rest : List Setting} (absent : g s = none)
    (unset : environment s.variableName = none) :
    fillFromEnvironment environment g (s :: rest) = fillFromEnvironment environment g rest := by
  simp [fillFromEnvironment, absent, unset]

theorem fill_cons_set {rest : List Setting} {raw : String} (absent : g s = none)
    (set : environment s.variableName = some raw) :
    fillFromEnvironment environment g (s :: rest) =
      (occurrence g s raw >>= fun g => fillFromEnvironment environment g rest) := by
  simp [fillFromEnvironment, absent, set]

/-- **Only the variables of settings that no flag gives are looked at.** -/
theorem fill_congr {environment' : String → Option String}
    (same : ∀ t ∈ settings, (g t).isSome ∨ environment t.variableName = environment' t.variableName) :
    fillFromEnvironment environment g settings = fillFromEnvironment environment' g settings := by
  induction settings generalizing g with
  | nil => rfl
  | cons t rest ih =>
      have later : ∀ u ∈ rest, (g u).isSome ∨ _ := fun u among => same u (List.mem_cons_of_mem t among)
      cases given : g t with
      | some values =>
          have isGiven : (g t).isSome := Option.isSome_iff_exists.mpr ⟨values, given⟩
          rw [fill_cons_given isGiven, fill_cons_given isGiven]
          exact ih later
      | none =>
          have agree : environment t.variableName = environment' t.variableName :=
            (same t List.mem_cons_self).resolve_left (by rw [given]; exact Bool.false_ne_true)
          cases set : environment t.variableName with
          | none =>
              rw [fill_cons_unset given set, fill_cons_unset given (agree.symm.trans set)]
              exact ih later
          | some raw =>
              rw [fill_cons_set given set, fill_cons_set given (agree.symm.trans set)]
              cases read : occurrence g t raw with
              | error cause => rfl
              | ok g' =>
                  obtain ⟨values, -, rfl⟩ := occurrence_eq_ok_iff.mp read
                  exact ih fun u among => (later u among).imp_left (Given.isSome_set g t _)

/-- What becomes of the values at one variable that is not refused. -/
inductive Filled (environment : String → Option String) (g : Given) (t : Setting) : Given → Prop
  /-- The setting is given by its flag, or not at all. -/
  | kept : (g t).isSome ∨ environment t.variableName = none → Filled environment g t g
  /-- The variable gives it. -/
  | added {raw values} : g t = none → environment t.variableName = some raw →
      t.kind.readAll raw = .ok values → Filled environment g t (g.append t values)

theorem Filled.fill_eq {g' : Given} {t : Setting} {rest : List Setting} (one : Filled environment g t g') :
    fillFromEnvironment environment g (t :: rest) = fillFromEnvironment environment g' rest := by
  cases one with
  | kept why =>
      by_cases given : (g t).isSome
      · exact fill_cons_given given
      · exact fill_cons_unset (Option.not_isSome_iff_eq_none.mp given) (why.resolve_left given)
  | added absent set read =>
      rw [fill_cons_set absent set, occurrence_eq_ok_iff.mpr ⟨_, read, rfl⟩]
      rfl

/-- Filling goes through the variables one by one. -/
theorem filled_of_fill {t : Setting} {rest : List Setting}
    (ok : fillFromEnvironment environment g (t :: rest) = .ok filled) :
    ∃ g', Filled environment g t g' ∧ fillFromEnvironment environment g' rest = .ok filled := by
  by_cases given : (g t).isSome
  · exact ⟨g, .kept (.inl given), (fill_cons_given given).symm.trans ok⟩
  · have absent : g t = none := Option.not_isSome_iff_eq_none.mp given
    cases set : environment t.variableName with
    | none => exact ⟨g, .kept (.inr set), (fill_cons_unset absent set).symm.trans ok⟩
    | some raw =>
        rw [fill_cons_set absent set] at ok
        obtain ⟨g', read, goesOn⟩ := bind_eq_ok_iff.mp ok
        obtain ⟨values, accepted, rfl⟩ := occurrence_eq_ok_iff.mp read
        exact ⟨_, .added absent set accepted, goesOn⟩

/-- Values of a setting pass through a variable that gives nothing to it. -/
theorem Filled.set {g' : Given} {t : Setting} (one : Filled environment g t g')
    (unset : environment s.variableName = none) (values : List Value) :
    Filled environment (g.set s values) t (g'.set s values) := by
  by_cases own : t = s
  · subst own
    cases one with
    | kept => exact .kept (.inr unset)
    | added _ set =>
        rw [unset] at set
        cases set
  · have same : g.set s values t = g t := Given.set_other g values own
    cases one with
    | kept why => exact .kept (same ▸ why)
    | added absent set read =>
        rw [← g.append_set values _ own]
        exact .added (same.trans absent) set read

/-- Values of a setting pass through the variables of the others. -/
theorem fill_set (unset : environment s.variableName = none)
    (ok : fillFromEnvironment environment g settings = .ok filled) (values : List Value) :
    fillFromEnvironment environment (g.set s values) settings = .ok (filled.set s values) := by
  induction settings generalizing g with
  | nil =>
      cases ok
      rfl
  | cons t rest ih =>
      obtain ⟨g', one, goesOn⟩ := filled_of_fill ok
      rw [(one.set unset values).fill_eq]
      exact ih goesOn

/-- The value of a variable that no flag overrides is read, and then it counts. -/
theorem fill_withVariable (unset : environment s.variableName = none) (absent : g s = none)
    (among : s ∈ settings) (once : settings.Nodup)
    (apart : ∀ t ∈ settings, t.variableName = s.variableName → t = s)
    (ok : fillFromEnvironment environment g settings = .ok filled) :
    fillFromEnvironment (withVariable environment s v) g settings =
      match s.kind.readAll v with
      | .error (piece, cause) => .error (.badValue s piece cause)
      | .ok values => .ok (filled.set s values) := by
  have others : ∀ t : Setting, t.variableName ≠ s.variableName →
      withVariable environment s v t.variableName = environment t.variableName :=
    fun t differs => if_neg differs
  induction settings generalizing g with
  | nil => cases among
  | cons t rest ih =>
      obtain ⟨notAgain, once'⟩ := List.nodup_cons.mp once
      have apart' : ∀ u ∈ rest, u.variableName = s.variableName → u = s :=
        fun u later => apart u (List.mem_cons_of_mem t later)
      by_cases own : t = s
      · subst own
        rw [fill_cons_unset absent unset] at ok
        rw [fill_cons_set absent (if_pos rfl), occurrence]
        cases read : t.kind.readAll v with
        | error refused => rfl
        | ok values =>
            have added : g.append t values = g.set t values := by rw [Given.append, absent]; rfl
            have rest_same : fillFromEnvironment (withVariable environment t v) (g.set t values) rest =
                fillFromEnvironment environment (g.set t values) rest := by
              refine fill_congr fun u later => .inr (others u fun same => notAgain ?_)
              exact apart' u later same ▸ later
            show fillFromEnvironment (withVariable environment t v) (g.append t values) rest = _
            rw [added, rest_same]
            exact fill_set unset ok values
      · have same := others t fun same => own (apart t List.mem_cons_self same)
        have among' : s ∈ rest := (List.mem_cons.mp among).resolve_left (Ne.symm own)
        obtain ⟨g', one, goesOn⟩ := filled_of_fill ok
        cases one with
        | kept why =>
            rw [Filled.fill_eq (.kept (same ▸ why))]
            exact ih absent among' once' apart' goesOn
        | added fresh set read =>
            rw [Filled.fill_eq (.added fresh (same.trans set) read)]
            exact ih ((g.append_other _ (Ne.symm own)).trans absent) among' once' apart' goesOn

/-! ## A value behind a flag and in a variable -/

/-- All other words and variables are acceptable, and between two of the words there is a place for a flag
of the setting; together they give the values `others`. -/
structure Admits (c : CommandName) (s : Setting) (before after : List String)
    (environment : String → Option String) (others : Given) : Prop where
  /-- No word before the place waits for its value. -/
  whole : ∃ g, readWords c .start before = .ok g
  /-- No word before the place says that there are no more words. -/
  goesOn : "--" ∉ before
  /-- No other word and no variable gives the setting. -/
  unset : environment s.variableName = none
  words : ∃ g, readWords c .start (before ++ after) = .ok g ∧ g s = none ∧
    fillFromEnvironment environment g c.settings = .ok others

variable {before after : List String} {others : Given}

/-- **A value behind a flag** is refused, or counts beside the other values. -/
theorem Admits.gather_word (admits : Admits c s before after environment others)
    (ofCommand : s ∈ c.settings) (takesValue : s.kind ≠ .truth) (v : String) :
    gather c (before ++ s.wordWith v :: after) environment =
      match s.kind.readAll v with
      | .error (piece, cause) => .error (.badValue s piece cause)
      | .ok values => .ok (others.set s values) := by
  obtain ⟨⟨g₁, whole⟩, goesOn, unset, g₂, words, absent, filled⟩ := admits
  obtain ⟨r, settles, reads⟩ := (accepted_of_readWords whole).exists_reading goesOn
  have rest : Accepted c ⟨g₁, none⟩ after g₂ := by
    rw [reads after] at words
    exact (accepted_of_readWords words).settled settles
  have fresh : g₁ s = none := rest.absent absent
  rw [gather, reads, readWords_attached ofCommand (ofWord_wordWith s v) takesValue settles,
    wordOccurrence, fresh, occurrence]
  cases read : s.kind.readAll v with
  | error refused => simp [bind, Except.bind]
  | ok values =>
      have added : g₁.append s values = g₁.set s values := by rw [Given.append, fresh]; rfl
      have read' : readWords c ⟨g₁.set s values, none⟩ after = .ok (g₂.set s values) :=
        (rest.set absent values).readWords_eq
      simp [bind, Except.bind, added, read', fill_set unset filled values]

/-- **A value in a variable** is refused, or counts beside the other values. -/
theorem Admits.gather_variable (admits : Admits c s before after environment others)
    (ofCommand : s ∈ c.settings) (v : String) :
    gather c (before ++ after) (withVariable environment s v) =
      match s.kind.readAll v with
      | .error (piece, cause) => .error (.badValue s piece cause)
      | .ok values => .ok (others.set s values) := by
  obtain ⟨g, words, absent, filled⟩ := admits.words
  rw [gather, words]
  exact fill_withVariable admits.unset absent ofCommand (settings_nodup c)
    (fun t ofCommand' same => variableName_inj ofCommand' ofCommand same) filled

/-- The flag of a setting is among the words, with its value in the same word or not. -/
def FlagAmong (s : Setting) (words : List String) : Prop :=
  ∃ word ∈ words, word = s.flagWord ∨ ∃ v, word = s.wordWith v

/-- **A flag makes its variable irrelevant.** -/
theorem gather_congr {words : List String} {environment' : String → Option String}
    (ofCommand : s ∈ c.settings) (flag : FlagAmong s words)
    (same : ∀ name, name ≠ s.variableName → environment name = environment' name) :
    gather c words environment = gather c words environment' := by
  obtain ⟨word, among, spelt⟩ := flag
  obtain ⟨value, form⟩ : ∃ value, Dashed.ofWord word = .long s.flag value := by
    rcases spelt with rfl | ⟨v, rfl⟩
    · exact ⟨none, ofWord_flagWord s⟩
    · exact ⟨some v, ofWord_wordWith s v⟩
  rw [gather, gather]
  cases words : readWords c .start words with
  | error cause => rfl
  | ok g =>
      have given : (g s).isSome := (accepted_of_readWords words).isSome_of_flag ofCommand among form
      refine fill_congr fun t ofCommand' => ?_
      by_cases own : t = s
      · exact .inl (own ▸ given)
      · exact .inr (same t.variableName fun shared =>
          own (variableName_inj ofCommand' ofCommand shared))

/-- **A setting is read the same from its flag and from its variable, and the flag wins.**  Take any
command and any of its settings.

* If the setting takes a value and all other words and variables are acceptable and do not give it, then
  `--flag=value` anywhere among the words comes to the same as the value in the variable: where the value
  is refused, to the refusal of this setting with the offending piece and its cause, and otherwise
  to the other values and those of this setting.
* If the flag is among the words in any form, no content of the variable changes anything. -/
theorem same_by_flag_and_variable (c : CommandName) {s : Setting} (ofCommand : s ∈ c.settings) :
    (s.kind ≠ .truth → ∀ v before after environment others,
      Admits c s before after environment others →
      Command.read (c.word :: (before ++ s.wordWith v :: after)) environment =
        Command.read (c.word :: (before ++ after)) (withVariable environment s v) ∧
      Command.read (c.word :: (before ++ s.wordWith v :: after)) environment =
        match s.kind.readAll v with
        | .error (piece, cause) => .error (.badValue s piece cause)
        | .ok values => finish c (others.set s values)) ∧
    (∀ words, FlagAmong s words → ∀ environment environment' : String → Option String,
      (∀ name, name ≠ s.variableName → environment name = environment' name) →
      Command.read (c.word :: words) environment = Command.read (c.word :: words) environment') := by
  refine ⟨?_, ?_⟩
  · intro takesValue v before after environment others admits
    rw [read_eq, read_eq, admits.gather_word ofCommand takesValue v,
      admits.gather_variable ofCommand v]
    refine ⟨rfl, ?_⟩
    cases s.kind.readAll v with
    | error refused => rfl
    | ok values => rfl
  · intro words flag environment environment' same
    rw [read_eq, read_eq, gather_congr ofCommand flag same]

/-- A list of labels with an empty piece is refused for that piece, from the command line as from the
variable; and an unreadable variable does not matter where the flag is given. -/
theorem same_by_flag_and_variable_gap :
    let environment : String → Option String :=
      fun name => if name = "PODLOCK_HOST" then some "::" else none
    let refused : Except UsageError Command :=
      .error (.badValue .daemonSetExclude "" (.label ⟨""⟩))
    Command.read ["lock", "--port", "80", "--daemonset-exclude=a:1,,b:2", "--daemonset-check"]
        environment = refused ∧
      Command.read ["lock", "--port", "80", "--daemonset-check"]
        (withVariable environment .daemonSetExclude "a:1,,b:2") = refused ∧
      Command.read ["lock", "--daemonset-exclude", "a:1"]
        (withVariable environment .daemonSetExclude ":") =
          Command.read ["lock", "--daemonset-exclude", "a:1"] environment := by
  intro environment refused
  have ofCommand : Setting.daemonSetExclude ∈ CommandName.lock.settings := by decide
  obtain ⟨same, wins⟩ := same_by_flag_and_variable .lock ofCommand
  have word : Setting.daemonSetExclude.wordWith "a:1,,b:2" = "--daemonset-exclude=a:1,,b:2" := rfl
  have read : Setting.daemonSetExclude.kind.readAll "a:1,,b:2" = .error ("", .label ⟨""⟩) := rfl
  have admits : Admits .lock .daemonSetExclude ["--port", "80"] ["--daemonset-check"] environment _ :=
    ⟨⟨_, rfl⟩, by decide, rfl, _, rfl, rfl, rfl⟩
  obtain ⟨equal, outcome⟩ := same (by decide) "a:1,,b:2" _ _ environment _ admits
  rw [word, read] at outcome
  rw [word] at equal
  refine ⟨outcome, equal.symm.trans outcome, ?_⟩
  refine wins ["--daemonset-exclude", "a:1"] ⟨_, List.mem_cons_self, .inl rfl⟩ _ _ ?_
  exact fun name other => if_neg other

end StartupGate.Settings
