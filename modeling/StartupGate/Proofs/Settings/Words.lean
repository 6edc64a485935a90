/-
# StartupGate.Proofs.Settings.Words -- words that are all accepted

Reading stops at the first word that cannot be accepted.  `Accepted` is the same reading as a relation,
for words that are all accepted, with one case for each form of a word; what holds of accepted
words is proved by induction over it.

* `readWords_eq_ok_iff`: the words that are read are the accepted ones.
* `Accepted.set`: values of a setting that the words do not give pass through the reading.
* `Accepted.isSome_of_flag`: a setting whose flag is among the words is given by them.
-/
import Mathlib.Data.List.Nodup
import StartupGate.Settings.Command

set_option autoImplicit false

namespace StartupGate.Settings

/-- A computation that goes on with the result of another succeeds if both do. -/
theorem bind_eq_ok_iff {ε α β : Type} {x : Except ε α} {f : α → Except ε β} {b : β} :
    (x >>= f) = .ok b ↔ ∃ a, x = .ok a ∧ f a = .ok b := by
  cases x <;> simp [bind, Except.bind]

/-! ## Flags and variables of a command -/

section Table

variable {c : CommandName} {s t : Setting}

/-- A flag of a command stands for one setting. -/
theorem setting?_flag (ofCommand : s ∈ c.settings) : c.setting? s.flag = some s := by
  have all : ∀ s ∈ c.settings, c.setting? s.flag = some s := by cases c <;> decide
  exact all s ofCommand

theorem nodup_variableNames (c : CommandName) : (c.settings.map Setting.variableName).Nodup := by
  cases c <;> decide

/-- A variable of a command stands for one setting. -/
theorem variableName_inj (ofCommand : s ∈ c.settings) (ofCommand' : t ∈ c.settings)
    (same : s.variableName = t.variableName) : s = t :=
  List.inj_on_of_nodup_map (nodup_variableNames c) ofCommand ofCommand' same

theorem settings_nodup (c : CommandName) : c.settings.Nodup := (nodup_variableNames c).of_map _

theorem setting?_eq_some {name : String} (found : c.setting? name = some s) :
    s ∈ c.settings ∧ s.flag = name :=
  ⟨List.mem_of_find?_eq_some found, by simpa using List.find?_some found⟩

theorem flag_inj (ofCommand : s ∈ c.settings) (ofCommand' : t ∈ c.settings)
    (same : s.flag = t.flag) : s = t := by
  have found := setting?_flag ofCommand
  rw [same, setting?_flag ofCommand'] at found
  exact (Option.some.inj found).symm

/-- No setting has the flag for help. -/
theorem flag_ne_help (s : Setting) : s.flag ≠ "help" := by cases s <;> decide

/-- The name of a flag ends before an equals sign. -/
theorem equals_notMem_flag (s : Setting) : '=' ∉ s.flag.toList := by cases s <;> decide

theorem flag_toList_ne_nil (s : Setting) : s.flag.toList ≠ [] := by cases s <;> decide

end Table

/-! ## The words for a flag -/

namespace Setting

/-- The flag of a setting as a word. -/
def flagWord (s : Setting) : String := "--" ++ s.flag

/-- The flag of a setting with a value as one word. -/
def wordWith (s : Setting) (value : String) : String := "--" ++ s.flag ++ "=" ++ value

end Setting

/-- A word of two dashes and more is read behind the dashes. -/
theorem ofWord_dashes {word : String} {rest : List Char} (letters : word.toList = '-' :: '-' :: rest)
    (more : rest ≠ []) :
    Dashed.ofWord word = match Text.splitFirst '=' rest with
      | some (name, value) => .long (String.ofList name) (some (String.ofList value))
      | none => .long (String.ofList rest) none := by
  obtain ⟨first, others, rfl⟩ := List.exists_cons_of_ne_nil more
  unfold Dashed.ofWord
  generalize word.toList = letters' at letters
  subst letters
  rfl

theorem ofWord_flagWord (s : Setting) : Dashed.ofWord s.flagWord = .long s.flag none := by
  have letters : s.flagWord.toList = '-' :: '-' :: s.flag.toList := by
    simp [Setting.flagWord, String.toList_append]
  rw [ofWord_dashes letters (flag_toList_ne_nil s), Text.splitFirst_eq_none (equals_notMem_flag s)]
  simp only [String.ofList_toList]

theorem ofWord_wordWith (s : Setting) (value : String) :
    Dashed.ofWord (s.wordWith value) = .long s.flag (some value) := by
  have letters : (s.wordWith value).toList = '-' :: '-' :: (s.flag.toList ++ '=' :: value.toList) := by
    simp [Setting.wordWith, String.toList_append]
  rw [ofWord_dashes letters (by simp), Text.splitFirst_append (equals_notMem_flag s)]
  simp only [String.ofList_toList]

/-! ## Given values -/

namespace Given

variable {g : Given} {s t : Setting}

@[simp] theorem set_self (g : Given) (s : Setting) (values : List Value) :
    g.set s values s = some values := if_pos rfl

theorem set_other (g : Given) (values : List Value) (other : t ≠ s) :
    g.set s values t = g t := if_neg other

theorem append_other (g : Given) (values : List Value) (other : t ≠ s) :
    g.append s values t = g t := set_other g _ other

theorem isSome_set (g : Given) (s : Setting) (values : List Value) (given : (g t).isSome) :
    (g.set s values t).isSome := by
  by_cases same : t = s
  · rw [same, set_self]
    rfl
  · rw [set_other g values same]
    exact given

theorem set_comm (g : Given) (values others : List Value) (other : t ≠ s) :
    (g.set s values).set t others = (g.set t others).set s values := by
  funext u
  by_cases atT : u = t
  · subst atT
    rw [set_self, set_other _ _ other, set_self]
  · rw [set_other _ _ atT]
    by_cases atS : u = s
    · subst atS
      rw [set_self, set_self]
    · rw [set_other _ _ atS, set_other _ _ atS, set_other _ _ atT]

theorem append_set (g : Given) (values others : List Value) (other : t ≠ s) :
    (g.set s values).append t others = (g.append t others).set s values := by
  rw [append, set_other g values other, set_comm g values _ other]
  rfl

end Given

/-! ## Occurrences -/

section Occurrence

variable {g g' : Given} {s t : Setting} {raw : String} {values : List Value}

theorem occurrence_eq_ok_iff : occurrence g s raw = .ok g' ↔
    ∃ values, s.kind.readAll raw = .ok values ∧ g.append s values = g' := by
  rw [occurrence]
  cases s.kind.readAll raw with
  | error cause => simp
  | ok values => simp

theorem wordOccurrence_eq_ok_iff : wordOccurrence g s raw = .ok g' ↔
    (s.kind.isList = true ∨ g s = none) ∧
      ∃ values, s.kind.readAll raw = .ok values ∧ g.append s values = g' := by
  rw [wordOccurrence, ← occurrence_eq_ok_iff]
  by_cases fresh : s.kind.isList = true ∨ g s = none
  · have open' : (!s.kind.isList && (g s).isSome) = false := by
      rcases fresh with list | absent
      · rw [list]; rfl
      · rw [absent]; exact Bool.and_false _
    simp [open', fresh]
  · have closed : (!s.kind.isList && (g s).isSome) = true := by
      rw [not_or, Bool.not_eq_true, ← ne_eq, Option.ne_none_iff_isSome] at fresh
      simp [fresh]
    simp [closed, fresh]

/-- An occurrence of a setting leaves the others. -/
theorem wordOccurrence_set (ok : wordOccurrence g t raw = .ok g') (absent : g' s = none) :
    wordOccurrence (g.set s values) t raw = .ok (g'.set s values) := by
  obtain ⟨fresh, others, read, rfl⟩ := wordOccurrence_eq_ok_iff.mp ok
  have other : t ≠ s := by
    rintro rfl
    rw [Given.append, Given.set_self] at absent
    cases absent
  refine wordOccurrence_eq_ok_iff.mpr ⟨?_, others, read, Given.append_set g values others other⟩
  rw [Given.set_other g values other]
  exact fresh

theorem isSome_of_wordOccurrence (ok : wordOccurrence g t raw = .ok g') (given : (g s).isSome) :
    (g' s).isSome := by
  obtain ⟨-, others, -, rfl⟩ := wordOccurrence_eq_ok_iff.mp ok
  exact Given.isSome_set g t _ given

theorem absent_of_wordOccurrence (ok : wordOccurrence g t raw = .ok g') (absent : g' s = none) :
    g s = none := by
  rw [← Option.not_isSome_iff_eq_none] at absent ⊢
  exact fun given => absent (isSome_of_wordOccurrence ok given)

end Occurrence

/-! ## The pending value -/

namespace Reading

variable {r : Reading} {g : Given} {s t : Setting} {values : List Value}

/-- A reading that has not begun. -/
def start : Reading := ⟨Given.none, none⟩

theorem settle_eq_ok_iff : r.settle = .ok g ↔ (r.pending = none ∧ r.given = g) ∨
    ∃ s raw, r.pending = some (s, some raw) ∧ wordOccurrence r.given s raw = .ok g := by
  obtain ⟨given, pending⟩ := r
  rcases pending with _ | ⟨s, _ | raw⟩
  · simp [settle]
  · simp [settle]
  · refine ⟨fun ok => .inr ⟨s, raw, rfl, ok⟩, ?_⟩
    rintro (⟨⟨⟩, -⟩ | ⟨_, _, ⟨⟩, read⟩)
    exact read

theorem settle_set (ok : r.settle = .ok g) (absent : g s = none) :
    settle ⟨r.given.set s values, r.pending⟩ = .ok (g.set s values) := by
  rcases settle_eq_ok_iff.mp ok with ⟨nothing, rfl⟩ | ⟨t, raw, waits, read⟩
  · exact settle_eq_ok_iff.mpr (.inl ⟨nothing, rfl⟩)
  · exact settle_eq_ok_iff.mpr (.inr ⟨t, raw, waits, wordOccurrence_set read absent⟩)

theorem isSome_of_settle (ok : r.settle = .ok g) (given : (r.given s).isSome) : (g s).isSome := by
  rcases settle_eq_ok_iff.mp ok with ⟨-, rfl⟩ | ⟨t, raw, -, read⟩
  · exact given
  · exact isSome_of_wordOccurrence read given

/-- The pending setting is given once its value is read. -/
theorem isSome_of_pending {raw : Option String} (ok : r.settle = .ok g)
    (waits : r.pending = some (s, raw)) : (g s).isSome := by
  rcases settle_eq_ok_iff.mp ok with ⟨nothing, -⟩ | ⟨t, value, waits', read⟩
  · rw [waits] at nothing
    cases nothing
  · obtain ⟨rfl, -⟩ := Prod.mk.inj (Option.some.inj (waits.symm.trans waits'))
    obtain ⟨-, values, -, rfl⟩ := wordOccurrence_eq_ok_iff.mp read
    rw [Given.append, Given.set_self]
    rfl

end Reading

/-! ## Accepted words -/

/-- The words are all accepted after a reading, and lead to the given values. -/
inductive Accepted (c : CommandName) : Reading → List String → Given → Prop
  /-- There are no more words. -/
  | done {r g} : r.settle = .ok g → Accepted c r [] g
  /-- The last word says that there are no more. -/
  | terminated {r g word} : Dashed.ofWord word = .terminator → r.settle = .ok g →
      Accepted c r [word] g
  /-- A flag without a value. -/
  | bare {r g g' word rest} {s : Setting} : s ∈ c.settings → Dashed.ofWord word = .long s.flag none →
      s.kind = .truth → r.settle = .ok g → g s = none →
      Accepted c ⟨g.set s [.truth true], none⟩ rest g' → Accepted c r (word :: rest) g'
  /-- A flag with its value in the same word. -/
  | attached {r g g₁ g' word v rest} {s : Setting} : s ∈ c.settings →
      Dashed.ofWord word = .long s.flag (some v) → s.kind ≠ .truth → r.settle = .ok g →
      wordOccurrence g s v = .ok g₁ → Accepted c ⟨g₁, none⟩ rest g' → Accepted c r (word :: rest) g'
  /-- A flag whose value is the next word. -/
  | awaiting {r g g' word rest} {s : Setting} : s ∈ c.settings →
      Dashed.ofWord word = .long s.flag none → s.kind ≠ .truth → r.settle = .ok g →
      Accepted c ⟨g, some (s, none)⟩ rest g' → Accepted c r (word :: rest) g'
  /-- The value of the flag before it. -/
  | value {g g' word rest} {s : Setting} : Dashed.ofWord word = .plain →
      Accepted c ⟨g, some (s, some word)⟩ rest g' → Accepted c ⟨g, some (s, none)⟩ (word :: rest) g'

section Accepted

variable {c : CommandName} {r : Reading} {words : List String} {g : Given} {s : Setting}

/-! ### One word -/

/-- A word with a flag of the command is read as that flag. -/
theorem readWords_flag {word : String} {rest : List String} {value : Option String}
    (ofCommand : s ∈ c.settings) (form : Dashed.ofWord word = .long s.flag value) :
    readWords c r (word :: rest) = (readFlag r s value >>= fun r => readWords c r rest) := by
  simp only [readWords, form, flag_ne_help, if_false, setting?_flag ofCommand]

theorem readWords_bare {word : String} {rest : List String} (ofCommand : s ∈ c.settings)
    (form : Dashed.ofWord word = .long s.flag none) (truth : s.kind = .truth)
    (settles : r.settle = .ok g) (absent : g s = none) :
    readWords c r (word :: rest) = readWords c ⟨g.set s [.truth true], none⟩ rest := by
  have flag : readFlag r s none = .ok ⟨g.set s [.truth true], none⟩ := by
    rw [readFlag, if_pos truth, settles]
    exact if_neg (by rw [absent]; exact Bool.false_ne_true)
  rw [readWords_flag ofCommand form, flag]
  rfl

/-- A value in the word of its flag is read at once, after the pending one. -/
theorem readWords_attached {word v : String} {rest : List String} (ofCommand : s ∈ c.settings)
    (form : Dashed.ofWord word = .long s.flag (some v)) (takesValue : s.kind ≠ .truth)
    (settles : r.settle = .ok g) :
    readWords c r (word :: rest) =
      (wordOccurrence g s v >>= fun g => readWords c ⟨g, none⟩ rest) := by
  rw [readWords_flag ofCommand form, readFlag, if_neg takesValue, settles]
  simp only [bind, Except.bind]
  cases wordOccurrence g s v <;> rfl

theorem readWords_awaiting {word : String} {rest : List String} (ofCommand : s ∈ c.settings)
    (form : Dashed.ofWord word = .long s.flag none) (takesValue : s.kind ≠ .truth)
    (settles : r.settle = .ok g) :
    readWords c r (word :: rest) = readWords c ⟨g, some (s, none)⟩ rest := by
  rw [readWords_flag ofCommand form, readFlag, if_neg takesValue, settles]
  rfl

theorem readWords_value {word : String} {rest : List String}
    (form : Dashed.ofWord word = .plain) :
    readWords c ⟨g, some (s, none)⟩ (word :: rest) =
      readWords c ⟨g, some (s, some word)⟩ rest := by
  simp only [readWords, form]

/-! ### All words -/

theorem Accepted.readWords_eq (accepted : Accepted c r words g) : readWords c r words = .ok g := by
  induction accepted with
  | done settles => rw [readWords, settles]
  | terminated form settles => simp only [readWords, form, settles]
  | bare ofCommand form truth settles absent _ ih =>
      exact (readWords_bare ofCommand form truth settles absent).trans ih
  | attached ofCommand form takesValue settles read _ ih =>
      rw [readWords_attached ofCommand form takesValue settles, read]
      exact ih
  | awaiting ofCommand form takesValue settles _ ih =>
      exact (readWords_awaiting ofCommand form takesValue settles).trans ih
  | value form _ ih => exact (readWords_value form).trans ih

theorem accepted_of_readWords (ok : readWords c r words = .ok g) : Accepted c r words g := by
  induction words generalizing r with
  | nil => exact .done ok
  | cons word rest ih =>
      rw [readWords.eq_def] at ok
      cases form : Dashed.ofWord word with
      | terminator =>
          cases rest with
          | nil =>
              simp only [form] at ok
              exact .terminated form ok
          | cons next more => simp [form] at ok
      | short letter =>
          simp only [form] at ok
          split at ok
          · obtain ⟨_, -, fails⟩ := bind_eq_ok_iff.mp ok
            cases fails
          · cases ok
      | plain =>
          obtain ⟨given, pending⟩ := r
          rcases pending with _ | ⟨s, _ | raw⟩
          · simp [form] at ok
          · simp only [form] at ok
            exact .value form (ih ok)
          · simp [form] at ok
      | long name value =>
          simp only [form] at ok
          split at ok
          · cases value with
            | some v => cases ok
            | none =>
                obtain ⟨_, -, fails⟩ := bind_eq_ok_iff.mp ok
                cases fails
          · cases found : c.setting? name with
            | none => simp [found] at ok
            | some s =>
                simp only [found] at ok
                obtain ⟨r', flag, goesOn⟩ := bind_eq_ok_iff.mp ok
                obtain ⟨ofCommand, rfl⟩ := setting?_eq_some found
                rw [readFlag.eq_def] at flag
                split at flag
                · next truth =>
                    cases value with
                    | some v => cases flag
                    | none =>
                        obtain ⟨g₀, settles, flag⟩ := bind_eq_ok_iff.mp flag
                        split at flag
                        · cases flag
                        · next absent =>
                            cases flag
                            exact .bare ofCommand form truth settles
                              (Option.not_isSome_iff_eq_none.mp absent) (ih goesOn)
                · next takesValue =>
                    cases value with
                    | some v =>
                        obtain ⟨g₀, settles, flag⟩ := bind_eq_ok_iff.mp flag
                        obtain ⟨g₁, read, flag⟩ := bind_eq_ok_iff.mp flag
                        cases flag
                        exact .attached ofCommand form takesValue settles read (ih goesOn)
                    | none =>
                        obtain ⟨g₀, settles, flag⟩ := bind_eq_ok_iff.mp flag
                        cases flag
                        exact .awaiting ofCommand form takesValue settles (ih goesOn)

/-- **The words that are read are the accepted ones.** -/
theorem readWords_eq_ok_iff : readWords c r words = .ok g ↔ Accepted c r words g :=
  ⟨accepted_of_readWords, Accepted.readWords_eq⟩

/-- What is given stays given. -/
theorem Accepted.isSome (accepted : Accepted c r words g) (given : (r.given s).isSome) :
    (g s).isSome := by
  induction accepted with
  | done settles => exact Reading.isSome_of_settle settles given
  | terminated _ settles => exact Reading.isSome_of_settle settles given
  | bare _ _ _ settles _ _ ih =>
      exact ih (Given.isSome_set _ _ _ (Reading.isSome_of_settle settles given))
  | attached _ _ _ settles read _ ih =>
      exact ih (isSome_of_wordOccurrence read (Reading.isSome_of_settle settles given))
  | awaiting _ _ _ settles _ ih => exact ih (Reading.isSome_of_settle settles given)
  | value _ _ ih => exact ih given

theorem Accepted.absent (accepted : Accepted c r words g) (absent : g s = none) :
    r.given s = none := by
  rw [← Option.not_isSome_iff_eq_none] at absent ⊢
  exact fun given => absent (accepted.isSome given)

/-- A pending setting is given in the end. -/
theorem Accepted.isSome_of_pending {raw : Option String} (accepted : Accepted c r words g)
    (waits : r.pending = some (s, raw)) : (g s).isSome := by
  induction accepted generalizing raw with
  | done settles => exact Reading.isSome_of_pending settles waits
  | terminated _ settles => exact Reading.isSome_of_pending settles waits
  | bare _ _ _ settles _ goesOn _ =>
      exact goesOn.isSome (Given.isSome_set _ _ _ (Reading.isSome_of_pending settles waits))
  | attached _ _ _ settles read goesOn _ =>
      exact goesOn.isSome (isSome_of_wordOccurrence read (Reading.isSome_of_pending settles waits))
  | awaiting _ _ _ settles goesOn _ =>
      exact goesOn.isSome (Reading.isSome_of_pending settles waits)
  | value _ _ ih =>
      obtain ⟨rfl, -⟩ := Prod.mk.inj (Option.some.inj waits)
      exact ih rfl

/-- **A setting whose flag is among accepted words is given by them.** -/
theorem Accepted.isSome_of_flag {word : String} {v : Option String} (accepted : Accepted c r words g)
    (ofCommand : s ∈ c.settings) (among : word ∈ words)
    (form : Dashed.ofWord word = .long s.flag v) : (g s).isSome := by
  -- a flag of the command at the head of the words is that of the setting
  have own : ∀ {t : Setting} {v' : Option String}, t ∈ c.settings →
      Dashed.ofWord word = .long t.flag v' → t = s :=
    fun ofCommand' form' =>
      flag_inj ofCommand' ofCommand (Dashed.long.inj (form'.symm.trans form)).1
  induction accepted with
  | done _ => cases among
  | terminated form' _ =>
      obtain rfl := List.mem_singleton.mp among
      rw [form] at form'
      cases form'
  | bare ofCommand' form' _ _ _ goesOn ih =>
      rcases List.mem_cons.mp among with rfl | later
      · obtain rfl := own ofCommand' form'
        exact goesOn.isSome (Option.isSome_iff_exists.mpr ⟨_, Given.set_self _ _ _⟩)
      · exact ih later
  | attached ofCommand' form' _ _ read goesOn ih =>
      rcases List.mem_cons.mp among with rfl | later
      · obtain rfl := own ofCommand' form'
        obtain ⟨-, values, -, rfl⟩ := wordOccurrence_eq_ok_iff.mp read
        exact goesOn.isSome (Option.isSome_iff_exists.mpr ⟨_, Given.set_self _ _ _⟩)
      · exact ih later
  | awaiting ofCommand' form' _ _ goesOn ih =>
      rcases List.mem_cons.mp among with rfl | later
      · obtain rfl := own ofCommand' form'
        exact goesOn.isSome_of_pending rfl
      · exact ih later
  | value form' _ ih =>
      rcases List.mem_cons.mp among with rfl | later
      · rw [form] at form'
        cases form'
      · exact ih later

/-- **Values of a setting that the words do not give pass through the reading.** -/
theorem Accepted.set (accepted : Accepted c r words g) (absent : g s = none) (values : List Value) :
    Accepted c ⟨r.given.set s values, r.pending⟩ words (g.set s values) := by
  induction accepted with
  | done settles => exact .done (Reading.settle_set settles absent)
  | terminated form settles => exact .terminated form (Reading.settle_set settles absent)
  | @bare r g g' word rest t ofCommand form truth settles fresh goesOn ih =>
      have before : (g.set t [.truth true]) s = none := goesOn.absent absent
      have other : t ≠ s := by
        rintro rfl
        rw [Given.set_self] at before
        cases before
      rw [Given.set_other g _ other.symm] at before
      have open' : g.set s values t = none := by rw [Given.set_other g values other, fresh]
      refine .bare ofCommand form truth (Reading.settle_set settles before) open' ?_
      rw [Given.set_comm g values _ other]
      exact ih absent
  | attached ofCommand form takesValue settles read goesOn ih =>
      have after := goesOn.absent absent
      have before := absent_of_wordOccurrence read after
      exact .attached ofCommand form takesValue (Reading.settle_set settles before)
        (wordOccurrence_set read after) (ih absent)
  | awaiting ofCommand form takesValue settles goesOn ih =>
      exact .awaiting ofCommand form takesValue (Reading.settle_set settles (goesOn.absent absent))
        (ih absent)
  | value form _ ih => exact .value form (ih absent)

/-- Accepted words may go on: after them a reading is reached that has their values. -/
theorem Accepted.exists_reading (accepted : Accepted c r words g) (goesOn : "--" ∉ words) :
    ∃ r', r'.settle = .ok g ∧ ∀ more, readWords c r (words ++ more) = readWords c r' more := by
  induction accepted with
  | @done r g settles => exact ⟨r, settles, fun _ => rfl⟩
  | @terminated r g word form settles =>
      have letters : word.toList = ['-', '-'] := by
        rw [Dashed.ofWord] at form
        split at form
        · assumption
        · split at form <;> cases form
        · cases form
        · cases form
      exact absurd (List.mem_singleton.mpr (String.toList_injective letters).symm) goesOn
  | bare ofCommand form truth settles absent _ ih =>
      obtain ⟨r', settles', reads⟩ := ih (List.not_mem_of_not_mem_cons goesOn)
      exact ⟨r', settles', fun more =>
        (readWords_bare ofCommand form truth settles absent).trans (reads more)⟩
  | attached ofCommand form takesValue settles read _ ih =>
      obtain ⟨r', settles', reads⟩ := ih (List.not_mem_of_not_mem_cons goesOn)
      refine ⟨r', settles', fun more => ?_⟩
      rw [List.cons_append, readWords_attached ofCommand form takesValue settles, read]
      exact reads more
  | awaiting ofCommand form takesValue settles _ ih =>
      obtain ⟨r', settles', reads⟩ := ih (List.not_mem_of_not_mem_cons goesOn)
      exact ⟨r', settles', fun more =>
        (readWords_awaiting ofCommand form takesValue settles).trans (reads more)⟩
  | value form _ ih =>
      obtain ⟨r', settles', reads⟩ := ih (List.not_mem_of_not_mem_cons goesOn)
      exact ⟨r', settles', fun more => (readWords_value form).trans (reads more)⟩

/-- A pending value that has been met may be read before the words that follow. -/
theorem Accepted.settled {g₀ : Given} (accepted : Accepted c r words g) (settles : r.settle = .ok g₀) :
    Accepted c ⟨g₀, none⟩ words g := by
  cases accepted with
  | done settles' => exact .done (settles.symm.trans settles')
  | terminated form settles' => exact .terminated form (settles.symm.trans settles')
  | bare ofCommand form truth settles' absent goesOn =>
      exact .bare ofCommand form truth (settles.symm.trans settles') absent goesOn
  | attached ofCommand form takesValue settles' read goesOn =>
      exact .attached ofCommand form takesValue (settles.symm.trans settles') read goesOn
  | awaiting ofCommand form takesValue settles' goesOn =>
      exact .awaiting ofCommand form takesValue (settles.symm.trans settles') goesOn
  | value form goesOn => cases settles

end Accepted

end StartupGate.Settings
