/-
# StartupGate.Proofs.Settings.RoundTrip -- a configuration that is written reads back

Every setting of a command has values (`Command.values`), and the occurrences that stand for the command
are those of its settings, one setting after the other.  What an occurrence does depends on the others of
the same setting only (`Gives`).  So the occurrences may stand in any order that keeps those of each list
in order, and reading them gives the values of each setting, and with them the command.

* `accepted_of_gives`: words are accepted, and give what those of each setting give by themselves.
* `Reordered.ofSetting_eq`: a new order does not change the occurrences of a setting.
* `read_wordsOf`: the words that stand for a command, in any such order, are read as the command.
-/
import StartupGate.Proofs.Settings.Texts
import StartupGate.Proofs.Settings.Values
import StartupGate.Settings.Written

set_option autoImplicit false

namespace StartupGate.Settings

/-! ## The values of a command -/

/-- A truth value is a value if it holds. -/
def truthValues (holds : Bool) : List Value := if holds then [.truth true] else []

/-- What the settings of the health checks are set to. -/
def CheckSettings.values (c : CheckSettings) : Setting → List Value
  | .check => c.endpoints.map .endpoint
  | .endpointPassPeriod => [.number c.endpointPassPeriod]
  | .endpointFailPeriod => [.number c.endpointFailPeriod]
  | .endpointTimeout => [.number c.endpointTimeout]
  | .daemonSetCheck => truthValues c.daemonSetCheck
  | .daemonSetNamespace => [.text c.daemonSetNamespace]
  | .daemonSetHostNetwork => truthValues c.daemonSetHostNetwork
  | .daemonSetInclude => c.daemonSetInclude.map fun (key, value) => .label key value
  | .daemonSetExclude => c.daemonSetExclude.map fun (key, value) => .label key value
  | .daemonSetPassPeriod => [.number c.daemonSetPassPeriod]
  | .daemonSetFailPeriod => [.number c.daemonSetFailPeriod]
  | .nodeLoadCheck => truthValues c.nodeLoadCheck
  | .nodeLoadThreshold => [.number c.nodeLoadThreshold]
  | .nodeLoadPassPeriod => [.number c.nodeLoadPassPeriod]
  | .nodeLoadFailPeriod => [.number c.nodeLoadFailPeriod]
  | .nodeName => (c.nodeName.map .text).toList
  | _ => []

/-- What the settings of a command are set to. -/
def Command.values : Command → Setting → List Value
  | .lock s, .gateHost => [.text s.host]
  | .lock s, .gatePort => [.number s.port]
  | .lock s, .parallelLocks => [.number s.parallelLocks]
  | .lock s, .lockDuration => [.number s.lockDuration]
  | .lock s, setting => s.checks.values setting
  | .health s, .gateHost => [.text s.host]
  | .health s, .gatePort => [.number s.port]
  | .health s, setting => s.checks.values setting
  | .init s, .lockHost => [.text s.lockHost]
  | .init s, .lockPort => [.number s.lockPort]
  | .init s, .requestDuration => (s.duration.map .number).toList
  | .init s, .period => [.number s.period]
  | .init s, .timeout => [.number s.timeout]
  | .init _, _ => []

/-- Every value that the command has for a setting is one that the setting can take and that can be written
for it. -/
def Command.Writable (c : Command) : Prop :=
  ∀ s ∈ c.name.settings, ∀ v ∈ c.values s, v.Fits s.kind

/-- The settings are given by these values, and those without values are not given. -/
def Given.ofValues (values : Setting → List Value) : Given :=
  fun s => if values s = [] then Option.none else some (values s)

/-- The occurrences that write the values of a setting. -/
def Setting.occurrences (style : ListStyle) (s : Setting) (values : List Value) : List Occurrence :=
  match s.kind with
  | .truth => values.map fun _ => ⟨s, none⟩
  | .endpoints => style s (values.map Value.spelling)
  | .labels => style s (values.map Value.spelling)
  | _ => values.map fun v => ⟨s, some v.spelling⟩

variable {style : ListStyle} {s : Setting} {c : CommandName} {command : Command} {g g' : Given}
  {values : List Value}

section Checks

variable {checks : CheckSettings}

theorem values_of_check (has : command.checks? = some checks) (among : s ∈ CommandName.checkSettings) :
    command.values s = checks.values s := by
  cases command with
  | lock settings =>
      cases has
      cases s <;> first | rfl | exact absurd among (by decide)
  | health settings =>
      cases has
      cases s <;> first | rfl | exact absurd among (by decide)
  | init settings => cases has

theorem mem_settings_of_check (has : command.checks? = some checks)
    (among : s ∈ CommandName.checkSettings) : s ∈ command.name.settings := by
  cases command with
  | lock settings => exact List.mem_append_right _ among
  | health settings => exact List.mem_append_right _ among
  | init settings => cases has

end Checks

/-! ## Occurrences -/

theorem ofTruth_eq (s : Setting) (holds : Bool) :
    Occurrence.ofTruth s holds = (truthValues holds).map fun _ => ⟨s, none⟩ := by
  cases holds <;> rfl

theorem checks_occurrences_eq (style : ListStyle) (c : CheckSettings) :
    c.occurrences style =
      CommandName.checkSettings.flatMap fun s => s.occurrences style (c.values s) := by
  cases nodeName : c.nodeName <;>
    simp [CheckSettings.occurrences, CommandName.checkSettings, Setting.occurrences, Setting.kind,
      Setting.entry, CheckSettings.values, nodeName, ofTruth_eq, Occurrence.ofNumber,
      Occurrence.ofText, Value.spelling, Function.comp_def]

/-- The occurrences of a command are those of its settings. -/
theorem occurrencesIn_eq (style : ListStyle) (command : Command) :
    command.occurrencesIn style =
      command.name.settings.flatMap fun s => s.occurrences style (command.values s) := by
  cases command with
  | lock settings =>
      have checks : CommandName.checkSettings.flatMap
          (fun s => s.occurrences style ((Command.lock settings).values s)) =
            settings.checks.occurrences style := (checks_occurrences_eq style settings.checks).symm
      simp [Command.occurrencesIn, Command.name, CommandName.settings, checks]
      rfl
  | health settings =>
      have checks : CommandName.checkSettings.flatMap
          (fun s => s.occurrences style ((Command.health settings).values s)) =
            settings.checks.occurrences style := (checks_occurrences_eq style settings.checks).symm
      simp [Command.occurrencesIn, Command.name, CommandName.settings, checks]
      rfl
  | init settings =>
      cases duration : settings.duration <;>
        simp [Command.occurrencesIn, Command.name, CommandName.settings, Command.values, duration] <;>
        rfl

/-! ## The command of its values -/

namespace Given

theorem getD_ofValues (values : Setting → List Value) (s : Setting) :
    (ofValues values s).getD [] = values s := by
  unfold ofValues
  split
  · next empty => rw [empty]; rfl
  · rfl

theorem number?_eq (g : Given) (s : Setting) :
    g.number? s = match (g s).getD [] with | [.number n] => some n | _ => Option.none := by
  unfold number?
  rcases g s with _ | _ | ⟨v, rest⟩
  · rfl
  · rfl
  · cases v <;> cases rest <;> rfl

theorem text?_eq (g : Given) (s : Setting) :
    g.text? s = match (g s).getD [] with | [.text t] => some t | _ => Option.none := by
  unfold text?
  rcases g s with _ | _ | ⟨v, rest⟩
  · rfl
  · rfl
  · cases v <;> cases rest <;> rfl

theorem truth_eq (g : Given) (s : Setting) :
    g.truth s = match (g s).getD [] with | [.truth b] => b | _ => false := by
  unfold truth
  rcases g s with _ | _ | ⟨v, rest⟩
  · rfl
  · rfl
  · cases v <;> cases rest <;> rfl

theorem only_truth (holds : Bool) :
    (match truthValues holds with | [.truth b] => b | _ => false) = holds := by
  cases holds <;> rfl

theorem only_number (n : Option Nat) :
    (match (n.map Value.number).toList with | [.number n] => some n | _ => Option.none) = n := by
  cases n <;> rfl

theorem only_text (t : Option String) :
    (match (t.map Value.text).toList with | [.text t] => some t | _ => Option.none) = t := by
  cases t <;> rfl

theorem checkSettings_eq {checks : CheckSettings}
    (given : ∀ s ∈ CommandName.checkSettings, (g s).getD [] = checks.values s) :
    g.checkSettings = checks := by
  simp (disch := decide) only [checkSettings, number?_eq, text?_eq, truth_eq, endpoints, pairs, given,
    CheckSettings.values, only_truth, only_text, List.filterMap_map]
  simp

/-- **A command is that of its values.** -/
theorem command_eq (given : ∀ s ∈ command.name.settings, (g s).getD [] = command.values s) :
    g.command command.name = command := by
  have checks {checks : CheckSettings} (has : command.checks? = some checks) :
      g.checkSettings = checks := by
    refine checkSettings_eq ?_
    intro s among
    rw [given s (mem_settings_of_check has among), values_of_check has among]
  cases command with
  | lock settings =>
      have same := checks rfl
      change ∀ s ∈ CommandName.lock.settings, _ at given
      simp (disch := decide) only [Given.command, Command.name, number?_eq, text?_eq, given,
        Command.values, same]
      simp
  | health settings =>
      have same := checks rfl
      change ∀ s ∈ CommandName.health.settings, _ at given
      simp (disch := decide) only [Given.command, Command.name, number?_eq, text?_eq, given,
        Command.values, same]
      simp
  | init settings =>
      change ∀ s ∈ CommandName.init.settings, _ at given
      simp (disch := decide) only [Given.command, Command.name, number?_eq, text?_eq, given,
        Command.values, only_number]
      simp

end Given

/-! ## What occurrences give -/

/-- The occurrences of a setting, in order. -/
def ofSetting (s : Setting) (os : List Occurrence) : List Occurrence := os.filter (·.setting = s)

/-- Occurrences of one setting, after values that it had before, give it all its values. -/
inductive Gives (s : Setting) : Option (List Value) → List Occurrence → Option (List Value) → Prop
  /-- There are no more occurrences. -/
  | nothing {before} : Gives s before [] before
  /-- The flag alone. -/
  | flag {os after} : s.kind = .truth → Gives s (some [.truth true]) os after →
      Gives s none (⟨s, none⟩ :: os) after
  /-- The flag with a text, for a list or for the first time. -/
  | text {before raw values os after} : s.kind ≠ .truth → s.kind.isList = true ∨ before = none →
      s.kind.readAll raw = .ok values → Gives s (some (before.getD [] ++ values)) os after →
      Gives s before (⟨s, some raw⟩ :: os) after

variable {os canonical : List Occurrence} {before after : Option (List Value)}

theorem Gives.eq_of_nothing (gives : Gives s before [] after) : before = after := by
  cases gives
  rfl

theorem ofSetting_cons_self (o : Occurrence) (os : List Occurrence) :
    ofSetting o.setting (o :: os) = o :: ofSetting o.setting os :=
  List.filter_cons_of_pos (by simp)

theorem ofSetting_cons_other {o : Occurrence} (other : o.setting ≠ s) :
    ofSetting s (o :: os) = ofSetting s os :=
  List.filter_cons_of_neg (by simpa using other)

theorem word_eq_flagWord (s : Setting) : Occurrence.word ⟨s, none⟩ = s.flagWord := by
  simp [Occurrence.word, Setting.flagWord]

theorem word_eq_wordWith (s : Setting) (raw : String) :
    Occurrence.word ⟨s, some raw⟩ = s.wordWith raw := by
  simp [Occurrence.word, Setting.wordWith, String.append_assoc]

/-- **Words are accepted if those of each setting can be,** and give what those of each setting give. -/
theorem accepted_of_gives (ofCommand : ∀ o ∈ os, o.setting ∈ c.settings)
    (gives : ∀ s, Gives s (g s) (ofSetting s os) (g' s)) :
    Accepted c ⟨g, none⟩ (os.map Occurrence.word) g' := by
  induction os generalizing g with
  | nil =>
      have same : g = g' := by
        funext s
        exact (gives s).eq_of_nothing
      subst same
      exact .done rfl
  | cons o rest ih =>
      obtain ⟨s, value⟩ := o
      have own := gives s
      have among : s ∈ c.settings := ofCommand _ List.mem_cons_self
      have others : ∀ o ∈ rest, o.setting ∈ c.settings :=
        fun o later => ofCommand o (List.mem_cons_of_mem _ later)
      -- the occurrences of another setting follow with what was given before
      have step {values : List Value} (goesOn : Gives s (some values) (ofSetting s rest) (g' s)) :
          ∀ t, Gives t (g.set s values t) (ofSetting t rest) (g' t) := by
        intro t
        by_cases same : t = s
        · subst same
          rw [Given.set_self]
          exact goesOn
        · have later := gives t
          rw [ofSetting_cons_other (Ne.symm same)] at later
          rw [Given.set_other g values same]
          exact later
      rw [ofSetting_cons_self ⟨s, value⟩ rest] at own
      generalize had : g s = before at own
      cases own with
      | flag truth goesOn =>
          have form : Dashed.ofWord (Occurrence.word ⟨s, none⟩) = .long s.flag none := by
            rw [word_eq_flagWord, ofWord_flagWord]
          exact .bare among form truth rfl had (ih others (step goesOn))
      | @text _ raw values _ _ takesValue fresh read goesOn =>
          have form : Dashed.ofWord (Occurrence.word ⟨s, some raw⟩) = .long s.flag (some raw) := by
            rw [word_eq_wordWith, ofWord_wordWith]
          have occurs : wordOccurrence g s raw = .ok (g.append s values) :=
            wordOccurrence_eq_ok_iff.mpr ⟨by rw [had]; exact fresh, values, read, rfl⟩
          rw [← had] at goesOn
          exact .attached among form takesValue rfl occurs (ih others (step goesOn))

/-! ## The occurrences of one setting -/

/-- The elements of a list, written one by one, come behind those that were given before. -/
theorem gives_each (isList : s.kind.isList = true) (fit : ∀ v ∈ values, v.Fits s.kind)
    (before : Option (List Value)) :
    Gives s before (Occurrence.each s (values.map Value.spelling))
      (if values = [] then before else some (before.getD [] ++ values)) := by
  induction values generalizing before with
  | nil => exact .nothing
  | cons v rest ih =>
      have takesValue : s.kind ≠ .truth := Kind.ne_truth_of_isList isList
      have read := Kind.readAll_single s.inReach (fit v List.mem_cons_self)
      have later := ih (fun v member => fit v (List.mem_cons_of_mem _ member))
        (some (before.getD [] ++ [v]))
      refine .text takesValue (.inl isList) read ?_
      cases rest with
      | nil => exact later
      | cons w more => simpa [Occurrence.each] using later

theorem gives_together (isList : s.kind.isList = true) (fit : ∀ v ∈ values, v.Fits s.kind) :
    Gives s none (Occurrence.together s (values.map Value.spelling))
      (if values = [] then none else some values) := by
  cases values with
  | nil => exact .nothing
  | cons v rest =>
      have takesValue : s.kind ≠ .truth := Kind.ne_truth_of_isList isList
      have read := Kind.readAll_joined s.inReach isList fit (by simp)
      exact .text takesValue (.inl isList) read .nothing

/-- One value at most is written by one occurrence at most. -/
theorem gives_single (notTruth : s.kind ≠ .truth)
    (single : values.length ≤ 1) (fit : ∀ v ∈ values, v.Fits s.kind) :
    Gives s none (values.map fun v => ⟨s, some v.spelling⟩)
      (if values = [] then none else some values) := by
  match values, single with
  | [], _ => exact .nothing
  | [v], _ =>
      have read := Kind.readAll_single s.inReach (fit v List.mem_cons_self)
      exact .text notTruth (.inr rfl) read .nothing

theorem gives_truth (truth : s.kind = .truth) (single : values.length ≤ 1)
    (fit : ∀ v ∈ values, v.Fits s.kind) :
    Gives s none (values.map fun _ => ⟨s, none⟩) (if values = [] then none else some values) := by
  match values, single with
  | [], _ => exact .nothing
  | [v], _ =>
      have holds := fit v List.mem_cons_self
      rw [truth] at holds
      cases v with
      | truth value =>
          cases holds
          exact .flag truth .nothing
      | _ => cases holds

/-- Each list is written by one occurrence for each element or by one for all. -/
def ListStyle.Plain (style : ListStyle) : Prop :=
  ∀ s, style s = Occurrence.each s ∨ style s = Occurrence.together s

/-- **The occurrences that write the values of a setting give it these values.** -/
theorem gives_occurrences (plain : style.Plain) (fit : ∀ v ∈ values, v.Fits s.kind)
    (single : s.kind.isList = false → values.length ≤ 1) :
    Gives s none (s.occurrences style values) (if values = [] then none else some values) := by
  have list (isList : s.kind.isList = true) :
      Gives s none (style s (values.map Value.spelling)) (if values = [] then none else some values) := by
    rcases plain s with each | together
    · rw [each]
      exact gives_each isList fit none
    · rw [together]
      exact gives_together isList fit
  unfold Setting.occurrences
  split
  · next truth => exact gives_truth truth (single (by rw [truth]; rfl)) fit
  · next endpoints => exact list (by rw [endpoints]; rfl)
  · next labels => exact list (by rw [labels]; rfl)
  · next notTruth notEndpoints notLabels =>
      refine gives_single notTruth (single ?_) fit
      cases kind : s.kind <;> simp_all [Kind.isList]

/-! ## The order of the occurrences -/

/-- A list of occurrences in another order, in which those of each list setting keep theirs. -/
structure Reordered (os canonical : List Occurrence) : Prop where
  perm : os.Perm canonical
  lists : ∀ s, s.kind.isList = true → ofSetting s os = ofSetting s canonical

/-- A setting that is no list occurs once at most. -/
theorem occurrences_length_le (notList : s.kind.isList = false) (single : values.length ≤ 1) :
    (s.occurrences style values).length ≤ 1 := by
  unfold Setting.occurrences
  split
  · rwa [List.length_map]
  · next endpoints =>
      rw [endpoints] at notList
      cases notList
  · next labels =>
      rw [labels] at notList
      cases notList
  · rwa [List.length_map]

theorem setting_of_mem_occurrences (plain : style.Plain) {o : Occurrence}
    (member : o ∈ s.occurrences style values) : o.setting = s := by
  have list {texts : List String} (member : o ∈ style s texts) : o.setting = s := by
    rcases plain s with each | together
    · rw [each, Occurrence.each, List.mem_map] at member
      obtain ⟨text, -, rfl⟩ := member
      rfl
    · rw [together, Occurrence.together] at member
      split at member
      · cases member
      · obtain rfl := List.mem_singleton.mp member
        rfl
  unfold Setting.occurrences at member
  split at member
  · obtain ⟨v, -, rfl⟩ := List.mem_map.mp member
    rfl
  · exact list member
  · exact list member
  · obtain ⟨v, -, rfl⟩ := List.mem_map.mp member
    rfl

theorem ofSetting_eq_self (own : ∀ o ∈ os, o.setting = s) : ofSetting s os = os :=
  List.filter_eq_self.mpr fun o member => decide_eq_true (own o member)

theorem ofSetting_eq_nil (others : ∀ o ∈ os, o.setting ≠ s) : ofSetting s os = [] :=
  List.filter_eq_nil_iff.mpr fun o member => by simpa using others o member

/-- The occurrences of a setting among those of several settings are its own. -/
theorem ofSetting_flatMap {write : Setting → List Occurrence} {settings : List Setting}
    (own : ∀ s, ∀ o ∈ write s, o.setting = s) (once : settings.Nodup) (among : s ∈ settings) :
    ofSetting s (settings.flatMap write) = write s := by
  induction settings with
  | nil => cases among
  | cons t rest ih =>
      obtain ⟨notAgain, once'⟩ := List.nodup_cons.mp once
      rw [List.flatMap_cons, ofSetting, List.filter_append]
      change ofSetting s (write t) ++ ofSetting s (rest.flatMap write) = write s
      by_cases same : t = s
      · subst same
        have later : ∀ o ∈ rest.flatMap write, o.setting ≠ t := by
          intro o member
          obtain ⟨u, among', member⟩ := List.mem_flatMap.mp member
          rw [own u o member]
          intro same
          exact notAgain (same ▸ among')
        rw [ofSetting_eq_self (own t), ofSetting_eq_nil later, List.append_nil]
      · have first : ∀ o ∈ write t, o.setting ≠ s := by
          intro o member
          rw [own t o member]
          exact same
        rw [ofSetting_eq_nil first, List.nil_append]
        exact ih once' ((List.mem_cons.mp among).resolve_left (Ne.symm same))

/-- **A new order does not change the occurrences of a setting.** -/
theorem Reordered.ofSetting_eq (reordered : Reordered os canonical)
    (single : s.kind.isList = false → (ofSetting s canonical).length ≤ 1) :
    ofSetting s os = ofSetting s canonical := by
  cases isList : s.kind.isList with
  | true => exact reordered.lists s isList
  | false =>
      have perm : (ofSetting s os).Perm (ofSetting s canonical) := reordered.perm.filter _
      have few := single isList
      generalize ofSetting s canonical = own at perm few
      match own, few with
      | [], _ => exact perm.eq_nil
      | [o], _ => exact List.perm_singleton.mp perm

/-! ## Writing and reading -/

theorem values_length_le (command : Command) (notList : s.kind.isList = false) :
    (command.values s).length ≤ 1 := by
  have truth (holds : Bool) : (truthValues holds).length ≤ 1 := by cases holds <;> decide
  have option {α : Type} (o : Option α) : o.toList.length ≤ 1 := by cases o <;> simp
  have checks (c : CheckSettings) : (c.values s).length ≤ 1 := by
    cases s <;> first
      | exact truth _
      | exact option _
      | exact Nat.le_refl _
      | exact Nat.zero_le _
      | cases notList
  cases command <;> cases s <;> first
    | exact checks _
    | exact option _
    | exact Nat.le_refl _
    | exact Nat.zero_le _

theorem values_eq_nil (notAmong : s ∉ command.name.settings) : command.values s = [] := by
  cases command with
  | lock settings =>
      change s ∉ CommandName.lock.settings at notAmong
      cases s <;> first | rfl | exact absurd (by decide) notAmong
  | health settings =>
      change s ∉ CommandName.health.settings at notAmong
      cases s <;> first | rfl | exact absurd (by decide) notAmong
  | init settings =>
      change s ∉ CommandName.init.settings at notAmong
      cases s <;> first | rfl | exact absurd (by decide) notAmong

/-- An empty environment fills nothing. -/
theorem fill_empty (g : Given) (settings : List Setting) :
    fillFromEnvironment (fun _ => none) g settings = .ok g := by
  induction settings with
  | nil => rfl
  | cons s rest ih =>
      cases given : g s with
      | none => exact (fill_cons_unset given rfl).trans ih
      | some values => exact (fill_cons_given (by rw [given]; rfl)).trans ih

theorem finish_eq_ok (given : ∀ s ∈ command.name.settings, (g s).getD [] = command.values s) :
    finish command.name g = .ok command := by
  have complete : (command.name.required.filter fun s => (g s).isNone) = [] := by
    cases command with
    | lock settings => rfl
    | health settings => rfl
    | init settings =>
        have among : Setting.lockHost ∈ CommandName.init.settings := by decide
        have host := given .lockHost among
        cases absent : g .lockHost with
        | none => simp [absent, Command.values] at host
        | some values => simp [Command.name, CommandName.required, absent]
  simp only [finish, complete, if_true, Given.command_eq given]

/-- **A configuration round-trips in any argument order.**  Take any command whose numbers are in the ranges
of their settings, whose endpoints were read from some text, whose label pairs have something other than
a colon on either side, and of which no endpoint and no label has a comma (`Command.Writable`).  Write an
occurrence for each of its settings: a number or a text behind the flag and an equals sign, a truth value
as the flag alone if it holds, each list as one occurrence for each of its elements or as one for all,
joined by commas, and nothing for what is not set.  Then the name of the command and the words for the
occurrences, in any order that keeps those of each list in order, are read in an empty environment as the
very command. -/
theorem read_wordsOf (command : Command) (writable : command.Writable) (style : ListStyle)
    (plain : style.Plain) (os : List Occurrence)
    (reordered : Reordered os (command.occurrencesIn style)) :
    Command.read (command.wordsOf os) (fun _ => none) = .ok command := by
  have own (s : Setting) : ∀ o ∈ s.occurrences style (command.values s), o.setting = s :=
    fun o member => setting_of_mem_occurrences plain member
  have canonical {s : Setting} (among : s ∈ command.name.settings) :
      ofSetting s (command.occurrencesIn style) = s.occurrences style (command.values s) := by
    rw [occurrencesIn_eq]
    exact ofSetting_flatMap own (settings_nodup _) among
  have ofCommand : ∀ o ∈ os, o.setting ∈ command.name.settings := by
    intro o member
    have member' := reordered.perm.mem_iff.mp member
    rw [occurrencesIn_eq, List.mem_flatMap] at member'
    obtain ⟨s, among, member'⟩ := member'
    rw [own s o member']
    exact among
  have gives : ∀ s, Gives s (Given.none s) (ofSetting s os) (Given.ofValues command.values s) := by
    intro s
    by_cases among : s ∈ command.name.settings
    · have single (notList : s.kind.isList = false) :
          (ofSetting s (command.occurrencesIn style)).length ≤ 1 := by
        rw [canonical among]
        exact occurrences_length_le notList (values_length_le command notList)
      rw [reordered.ofSetting_eq single, canonical among]
      exact gives_occurrences plain (writable s among) (values_length_le command)
    · have nothing : ofSetting s os = [] := by
        refine ofSetting_eq_nil ?_
        rintro o member rfl
        exact among (ofCommand o member)
      have none' : Given.ofValues command.values s = none := if_pos (values_eq_nil among)
      rw [nothing, none']
      exact .nothing
  have read : readWords command.name .start (os.map Occurrence.word) = .ok (.ofValues command.values) :=
    (accepted_of_gives ofCommand gives).readWords_eq
  rw [Command.wordsOf, read_eq, gather, read]
  simp only [bind, Except.bind, fill_empty]
  exact finish_eq_ok fun s _ => Given.getD_ofValues command.values s

/-- One list is joined, another is given element by element between other settings, and values look like
flags or are empty. -/
theorem read_interleaved_words :
    let checks : CheckSettings :=
      ⟨[.raw .tcp "db" 5432, .http true "https://a/?b=c"], 60, 10, 10, true, "", false,
        [("app", "web"), ("tier", "x=y")], [], 1, 2, false, 255, 3600, 10, some "--node"⟩
    Command.read ["health", "--node-name=--node", "--daemonset-include=app:web",
      "--check=tcp://db:5432,https://a/?b=c", "--nodeload-threshold=255", "--daemonset-check",
      "--nodeload-fail-period=10", "--nodeload-pass-period=3600",
      "--daemonset-include=tier:x=y", "--daemonset-namespace=", "--daemonset-pass-period=1",
      "--endpoint-timeout=10", "--daemonset-fail-period=2", "--endpoint-fail-period=10",
      "--endpoint-pass-period=60", "--port=0", "--host="] (fun _ => none) =
      .ok (.health ⟨"", 0, checks⟩) := by
  intro checks
  have writable : (Command.health ⟨"", 0, checks⟩).Writable := by
    have db : Endpoint.read "tcp://db:5432" = .ok (.raw .tcp "db" 5432) := rfl
    have https : Endpoint.read "https://a/?b=c" = .ok (.http true "https://a/?b=c") := rfl
    intro s _ v member
    cases s with
    | check =>
        rcases List.mem_pair.mp member with rfl | rfl
        · exact ⟨⟨_, db⟩, by decide +kernel⟩
        · exact ⟨⟨_, https⟩, by decide +kernel⟩
    | daemonSetInclude =>
        rcases List.mem_pair.mp member with rfl | rfl
        · exact ⟨by decide, by decide, by decide, by decide, by decide, by decide⟩
        · exact ⟨by decide, by decide, by decide, by decide, by decide, by decide⟩
    | gateHost | daemonSetCheck | daemonSetNamespace | nodeName =>
        obtain rfl := List.mem_singleton.mp member
        trivial
    | gatePort | endpointPassPeriod | endpointFailPeriod | endpointTimeout | daemonSetPassPeriod
    | daemonSetFailPeriod | nodeLoadThreshold | nodeLoadPassPeriod | nodeLoadFailPeriod =>
        obtain rfl := List.mem_singleton.mp member
        exact Nat.le_of_ble_eq_true rfl
    | _ => cases member
  let style : ListStyle := fun s => if s = .check then Occurrence.together s else Occurrence.each s
  have plain : style.Plain := by
    intro s
    by_cases check : s = .check
    · exact .inr (if_pos check)
    · exact .inl (if_neg check)
  let os : List Occurrence :=
    [⟨.nodeName, some "--node"⟩, ⟨.daemonSetInclude, some "app:web"⟩,
      ⟨.check, some "tcp://db:5432,https://a/?b=c"⟩, ⟨.nodeLoadThreshold, some "255"⟩,
      ⟨.daemonSetCheck, none⟩, ⟨.nodeLoadFailPeriod, some "10"⟩,
      ⟨.nodeLoadPassPeriod, some "3600"⟩, ⟨.daemonSetInclude, some "tier:x=y"⟩,
      ⟨.daemonSetNamespace, some ""⟩, ⟨.daemonSetPassPeriod, some "1"⟩,
      ⟨.endpointTimeout, some "10"⟩, ⟨.daemonSetFailPeriod, some "2"⟩,
      ⟨.endpointFailPeriod, some "10"⟩, ⟨.endpointPassPeriod, some "60"⟩, ⟨.gatePort, some "0"⟩,
      ⟨.gateHost, some ""⟩]
  have reordered : Reordered os ((Command.health ⟨"", 0, checks⟩).occurrencesIn style) := by
    constructor
    · decide +kernel
    · intro s
      cases s <;> decide +kernel
  exact read_wordsOf _ writable style plain os reordered

end StartupGate.Settings
