/-
# StartupGate.Proofs.Text.Split -- cutting joined texts

What is joined at a separator that is in none of the pieces is cut into these pieces again.

* `splitAll_eq_splitOn`: cutting at every separator is the library's `List.splitOn`.
* `splitLast_append`, `splitFirstText_append`: the cuts at the last separator and at the first
  separating text.

Cutting is exact: `splitLast_eq_some_iff` and `splitFirstText_eq_some_iff` say which parts come out, and
the `eq_none` lemmas which texts are not cut.
-/
import Mathlib.Data.List.TakeWhile
import StartupGate.Text.Split

set_option autoImplicit false

namespace StartupGate.Text

variable {sep c : Char} {before after cs ps : List Char}

/-! ## Every separator -/

theorem splitAll_ne_nil (sep : Char) (cs : List Char) : splitAll sep cs ≠ [] := by
  cases cs with
  | nil => simp [splitAll]
  | cons c rest =>
      rw [splitAll]
      split
      · simp
      · split <;> simp

/-- Cutting at every separator is the library's function. -/
theorem splitAll_eq_splitOn (sep : Char) (cs : List Char) : splitAll sep cs = cs.splitOn sep := by
  rw [List.splitOn]
  induction cs with
  | nil => rfl
  | cons c rest ih =>
      rw [splitAll, List.splitOnP_cons_eq_if_modifyHead, ← ih]
      by_cases cut : c = sep
      · simp [cut]
      · obtain ⟨piece, pieces, split⟩ := List.exists_cons_of_ne_nil (splitAll_ne_nil sep rest)
        simp [cut, split]

/-- A text without the separator is one piece. -/
theorem splitAll_eq_singleton (absent : sep ∉ cs) : splitAll sep cs = [cs] := by
  rw [splitAll_eq_splitOn, List.splitOn_eq_singleton absent]

/-- The first piece of a text ends at the first separator. -/
theorem splitAll_append (first : sep ∉ before) :
    splitAll sep (before ++ sep :: after) = before :: splitAll sep after := by
  have others : ∀ c ∈ before, (c == sep) = false := by
    intro c member
    refine beq_false_of_ne ?_
    rintro rfl
    exact first member
  rw [splitAll_eq_splitOn, splitAll_eq_splitOn]
  exact List.splitOnP_append_cons_of_forall_mem others sep (beq_self_eq_true sep) after

/-- **Joined pieces are cut into the same pieces.** -/
theorem splitAll_intercalate {pieces : List (List Char)} (whole : ∀ piece ∈ pieces, sep ∉ piece)
    (some' : pieces ≠ []) : splitAll sep ([sep].intercalate pieces) = pieces := by
  rw [splitAll_eq_splitOn]
  exact List.splitOn_intercalate sep whole some'

/-- **Ended pieces are cut into the same pieces**, and nothing is left after the last end. -/
theorem splitAll_ended {pieces : List (List Char)} (whole : ∀ piece ∈ pieces, sep ∉ piece) :
    splitAll sep (pieces.flatMap (· ++ [sep])) = pieces ++ [[]] := by
  induction pieces with
  | nil => rfl
  | cons piece rest ih =>
      obtain ⟨first, others⟩ := List.forall_mem_cons.mp whole
      rw [List.flatMap_cons, List.append_assoc, List.singleton_append, splitAll_append first, ih others,
        List.cons_append]

/-! ## The first separator -/

theorem takeWhile_ne (absent : sep ∉ cs) : cs.takeWhile (· ≠ sep) = cs := by
  refine List.takeWhile_eq_self_iff.mpr fun c member => decide_eq_true ?_
  rintro rfl
  exact absent member

theorem dropWhile_ne (absent : sep ∉ cs) : cs.dropWhile (· ≠ sep) = [] := by
  refine List.dropWhile_eq_nil_iff.mpr fun c member => decide_eq_true ?_
  rintro rfl
  exact absent member

/-- **Cutting at the first separator**, if there is one. -/
theorem splitFirst_eq (sep : Char) (cs : List Char) : splitFirst sep cs =
    if sep ∈ cs then some (cs.takeWhile (· ≠ sep), (cs.dropWhile (· ≠ sep)).tail) else none := by
  induction cs with
  | nil => rfl
  | cons c rest ih =>
      rw [splitFirst, ih]
      by_cases here : c = sep
      · simp [here]
      · by_cases later : sep ∈ rest
        · simp [here, later]
        · simp [here, later, Ne.symm here]

/-! ## The last separator -/

/-- A text without the separator is not cut. -/
theorem splitLast_eq_none (absent : sep ∉ cs) : splitLast sep cs = none := by
  induction cs with
  | nil => rfl
  | cons c rest ih =>
      rw [List.mem_cons, not_or] at absent
      simp [splitLast, Ne.symm absent.1, ih absent.2]

/-- A text is cut at the last separator. -/
theorem splitLast_append (last : sep ∉ after) :
    splitLast sep (before ++ sep :: after) = some (before, after) := by
  induction before with
  | nil => simp [splitLast, splitLast_eq_none last]
  | cons c rest ih => simp [splitLast, ih]

theorem sep_notMem_of_splitLast (uncut : splitLast sep cs = none) : sep ∉ cs := by
  induction cs with
  | nil => exact List.not_mem_nil
  | cons c rest ih =>
      cases later : splitLast sep rest with
      | some parts => simp [splitLast, later] at uncut
      | none =>
          rw [List.mem_cons, not_or]
          refine ⟨?_, ih later⟩
          rintro rfl
          simp [splitLast, later] at uncut

/-- **Cutting at the last separator** gives the two parts of which the second has none. -/
theorem splitLast_eq_some_iff :
    splitLast sep cs = some (before, after) ↔ cs = before ++ sep :: after ∧ sep ∉ after := by
  constructor
  · intro cut
    induction cs generalizing before with
    | nil => cases cut
    | cons c rest ih =>
        rw [splitLast] at cut
        cases later : splitLast sep rest with
        | some parts =>
            rw [later] at cut
            cases cut
            obtain ⟨whole, last⟩ := ih later
            exact ⟨by rw [whole, List.cons_append], last⟩
        | none =>
            simp only [later] at cut
            split at cut
            · next here =>
                cases cut
                exact ⟨by rw [here, List.nil_append], sep_notMem_of_splitLast later⟩
            · cases cut
  · rintro ⟨rfl, last⟩
    exact splitLast_append last

/-! ## A separating text -/

theorem afterStart_append (ps cs : List Char) : afterStart ps (ps ++ cs) = some cs := by
  induction ps with
  | nil => rfl
  | cons p rest ih => simp [afterStart, ih]

theorem afterStart_eq_some_iff : afterStart ps cs = some after ↔ cs = ps ++ after := by
  constructor
  · intro begins
    induction ps generalizing cs with
    | nil =>
        cases begins
        rfl
    | cons p rest ih =>
        cases cs with
        | nil => cases begins
        | cons c later =>
            rw [afterStart] at begins
            split at begins
            · next same => rw [same, ih begins, List.cons_append]
            · cases begins
  · rintro rfl
    exact afterStart_append ps after

theorem afterStart_eq_none_iff : afterStart ps cs = none ↔ ¬ ps <+: cs := by
  rw [Option.eq_none_iff_forall_ne_some]
  constructor
  · rintro never ⟨after, rfl⟩
    exact never after (afterStart_append ps after)
  · intro never after begins
    exact never ⟨after, (afterStart_eq_some_iff.mp begins).symm⟩

/-- A text is cut at the first separating text if nothing before it begins like one. -/
theorem splitFirstText_append (first : c ∉ before) :
    splitFirstText (c :: ps) (before ++ c :: ps ++ after) = some (before, after) := by
  induction before with
  | nil =>
      have cut := afterStart_append (c :: ps) after
      simp only [List.nil_append, List.cons_append] at cut ⊢
      simp only [splitFirstText, cut]
  | cons d rest ih =>
      rw [List.mem_cons, not_or] at first
      have goesOn := ih first.2
      simp only [List.append_assoc, List.cons_append] at goesOn ⊢
      simp only [splitFirstText, afterStart, if_neg first.1, goesOn, Option.map_some]

/-- The parts before and after the first place where a separating text stands. -/
structure FirstCut (ps cs before after : List Char) : Prop where
  parts : cs = before ++ ps ++ after
  first : ∀ before' after', cs = before' ++ ps ++ after' → before.length ≤ before'.length

namespace FirstCut

/-- There is only one first place. -/
theorem unique {before' after' : List Char} (cut : FirstCut ps cs before after)
    (cut' : FirstCut ps cs before' after') : before = before' ∧ after = after' := by
  have same : before.length = before'.length :=
    Nat.le_antisymm (cut.first _ _ cut'.parts) (cut'.first _ _ cut.parts)
  have parts : before ++ (ps ++ after) = before' ++ (ps ++ after') := by
    rw [← List.append_assoc, ← List.append_assoc, ← cut.parts, ← cut'.parts]
  obtain ⟨left, right⟩ := List.append_inj parts same
  exact ⟨left, List.append_cancel_left right⟩

theorem of_begins (begins : cs = ps ++ after) : FirstCut ps cs [] after :=
  ⟨begins, fun _ _ _ => Nat.zero_le _⟩

/-- Where the separating text does not stand in front, it first stands in the rest. -/
theorem cons (absent : ¬ ps <+: c :: cs) (cut : FirstCut ps cs before after) :
    FirstCut ps (c :: cs) (c :: before) after where
  parts := by rw [cut.parts, List.cons_append, List.cons_append]
  first := by
    intro before' after' whole
    cases before' with
    | nil => exact absurd ⟨after', whole.symm⟩ absent
    | cons d later =>
        rw [List.cons_append, List.cons_append, List.cons.injEq] at whole
        exact Nat.succ_le_succ (cut.first _ _ whole.2)

end FirstCut

/-- **Cutting at a separating text** finds the first one. -/
theorem firstCut_of_splitFirstText (cut : splitFirstText ps cs = some (before, after)) :
    FirstCut ps cs before after := by
  induction cs generalizing before with
  | nil =>
      obtain ⟨rest, begins, same⟩ := Option.map_eq_some_iff.mp cut
      cases same
      exact .of_begins (afterStart_eq_some_iff.mp begins)
  | cons c rest ih =>
      rw [splitFirstText] at cut
      split at cut
      · next begins =>
          cases cut
          exact .of_begins (afterStart_eq_some_iff.mp begins)
      · next absent =>
          obtain ⟨⟨left, right⟩, later, same⟩ := Option.map_eq_some_iff.mp cut
          cases same
          exact .cons (afterStart_eq_none_iff.mp absent) (ih later)

/-- A text that is not cut has the separating text nowhere. -/
theorem splitFirstText_eq_none_iff : splitFirstText ps cs = none ↔ ¬ ps <:+: cs := by
  induction cs with
  | nil => rw [splitFirstText, Option.map_eq_none_iff, afterStart_eq_none_iff, List.infix_nil, List.prefix_nil]
  | cons c rest ih =>
      rw [List.infix_cons_iff, not_or, ← ih, ← afterStart_eq_none_iff, splitFirstText]
      cases afterStart ps (c :: rest) <;> simp

theorem splitFirstText_eq_some_iff :
    splitFirstText ps cs = some (before, after) ↔ FirstCut ps cs before after := by
  constructor
  · exact firstCut_of_splitFirstText
  · intro cut
    cases found : splitFirstText ps cs with
    | none => exact absurd ⟨before, after, cut.parts.symm⟩ (splitFirstText_eq_none_iff.mp found)
    | some parts =>
        obtain ⟨rfl, rfl⟩ := cut.unique (firstCut_of_splitFirstText found)
        rfl

theorem exists_firstCut (inside : ps <:+: cs) : ∃ before after, FirstCut ps cs before after := by
  cases found : splitFirstText ps cs with
  | none => exact absurd inside (splitFirstText_eq_none_iff.mp found)
  | some parts => exact ⟨parts.1, parts.2, firstCut_of_splitFirstText found⟩

end StartupGate.Text
