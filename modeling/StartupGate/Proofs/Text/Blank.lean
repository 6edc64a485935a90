/-
# StartupGate.Proofs.Text.Blank -- blank texts

Trimming leaves nothing of a text exactly if all of its characters are blank.  A word is a text that has
characters and of which none is blank (`IsWord`); trimming finds it among the blanks around it
(`trim_eq_iff`).
-/
import Mathlib.Data.List.TakeWhile
import StartupGate.Text.Blank

set_option autoImplicit false

namespace StartupGate.Text

variable {before cs : List Char} {s : String}

/-- Some character of the text is not blank. -/
def HasSubstance (s : String) : Prop := ∃ c ∈ s.toList, isBlank c = false

instance (s : String) : Decidable (HasSubstance s) :=
  List.decidableBEx (fun c => isBlank c = false) s.toList

/-- Some characters, none of them blank. -/
def IsWord (cs : List Char) : Prop := cs ≠ [] ∧ ∀ c ∈ cs, isBlank c = false

theorem isWord_iff : IsWord cs ↔ ¬ (cs = [] ∨ cs.any isBlank = true) := by
  rw [IsWord, not_or, Bool.not_eq_true, List.any_eq_false]
  simp only [Bool.not_eq_true]

instance (cs : List Char) : Decidable (IsWord cs) := decidable_of_iff _ isWord_iff.symm

theorem trimStart_eq_nil_iff : trimStart cs = [] ↔ ∀ c ∈ cs, isBlank c = true :=
  List.dropWhile_eq_nil_iff

theorem trim_eq_nil_iff : trim cs = [] ↔ ∀ c ∈ cs, isBlank c = true := by
  unfold trim trimEnd
  rw [List.reverse_eq_nil_iff, trimStart_eq_nil_iff]
  constructor
  · intro rest c member
    rw [← List.takeWhile_append_dropWhile (p := isBlank) (l := cs), List.mem_append] at member
    rcases member with start | later
    · exact List.mem_takeWhile_imp start
    · exact rest c (List.mem_reverse.mpr later)
  · intro all c member
    rw [trimStart_eq_nil_iff.mpr all] at member
    cases member

/-- The text is a word with nothing but blanks in front of it and behind it. -/
def Encloses (cs word : List Char) : Prop := ∃ before after, cs = before ++ word ++ after ∧
  (∀ c ∈ before, isBlank c = true) ∧ ∀ c ∈ after, isBlank c = true

theorem trimStart_append (blank : ∀ c ∈ before, isBlank c = true) (cs : List Char) :
    trimStart (before ++ cs) = trimStart cs := by
  unfold trimStart
  rw [List.dropWhile_append_of_pos blank]

/-- At a word the blanks in front end, whatever follows it. -/
theorem trimStart_of_word (word : IsWord cs) (after : List Char) : trimStart (cs ++ after) = cs ++ after := by
  obtain ⟨some', whole⟩ := word
  cases cs with
  | nil => exact absurd rfl some'
  | cons c rest =>
      apply List.dropWhile_cons_of_neg
      simp [whole c List.mem_cons_self]

/-- Trimming a text takes blanks off it and nothing else. -/
theorem encloses_trim (cs : List Char) : Encloses cs (trim cs) := by
  have start : cs = cs.takeWhile isBlank ++ trimStart cs := List.takeWhile_append_dropWhile.symm
  have ends : trimStart cs = trim cs ++ ((trimStart cs).reverse.takeWhile isBlank).reverse := by
    unfold trim trimEnd
    rw [← List.reverse_append]
    unfold trimStart
    rw [List.takeWhile_append_dropWhile, List.reverse_reverse]
  refine ⟨cs.takeWhile isBlank, ((trimStart cs).reverse.takeWhile isBlank).reverse, ?_, ?_, ?_⟩
  · rw [List.append_assoc, ← ends]
    exact start
  · exact fun c => List.mem_takeWhile_imp
  · exact fun c member => List.mem_takeWhile_imp (List.mem_reverse.mp member)

/-- **A text is trimmed to a word exactly if there are only blanks around it.** -/
theorem trim_eq_iff {word : List Char} (isWord : IsWord word) : trim cs = word ↔ Encloses cs word := by
  constructor
  · rintro rfl
    exact encloses_trim cs
  · rintro ⟨before, after, rfl, blank, blank'⟩
    have reversed : IsWord word.reverse :=
      ⟨by simpa using isWord.1, fun c member => isWord.2 c (List.mem_reverse.mp member)⟩
    have ends := trimStart_of_word reversed []
    rw [List.append_nil] at ends
    unfold trim trimEnd
    rw [List.append_assoc, trimStart_append blank, trimStart_of_word isWord, List.reverse_append,
      trimStart_append fun c member => blank' c (List.mem_reverse.mp member), ends, List.reverse_reverse]

/-- A text without blanks is not trimmed. -/
theorem trim_of_word (word : IsWord cs) : trim cs = cs := by
  rw [trim_eq_iff word]
  exact ⟨[], [], by simp, by simp, by simp⟩

/-- **A text is trimmed to nothing exactly if it is blank.** -/
theorem trimText_eq_empty_iff : trimText s = "" ↔ ¬ HasSubstance s := by
  unfold trimText HasSubstance
  rw [← String.toList_inj, String.toList_ofList, String.toList_empty, trim_eq_nil_iff]
  simp

end StartupGate.Text
