/-
# StartupGate.Proofs.Labels -- which pairs a set of labels holds

A set made of a list of pairs holds one pair for each key, the last that the list has for it
(`Labels.holds_ofPairs`).  So asking for any or for all of such a set is asking for those last pairs, and
it is asking for all pairs of the list exactly if the list has one value for each key
(`Labels.Unambiguous`).
-/
import Mathlib.Data.List.Induction
import StartupGate.Labels

set_option autoImplicit false

namespace StartupGate.Labels

variable {l wanted : Labels} {key value : String} {pair : String × String}
  {pairs : List (String × String)}

/-! ## One key -/

theorem lookup_without (key other : String) (pairs : List (String × String)) :
    (without key pairs).lookup other = if other = key then none else pairs.lookup other := by
  induction pairs with
  | nil => simp [without]
  | cons p rest ih =>
      obtain ⟨k, v⟩ := p
      rw [without] at ih ⊢
      by_cases dropped : k = key
      · subst dropped
        rw [List.filter_cons_of_neg (by simp), ih]
        by_cases same : other = k
        · rw [if_pos same, if_pos same]
        · rw [if_neg same, if_neg same, List.lookup_cons, beq_false_of_ne same]
      · rw [List.filter_cons_of_pos (by simpa using dropped), List.lookup_cons, List.lookup_cons]
        by_cases found : other = k
        · subst found
          simp [dropped]
        · rw [beq_false_of_ne found]
          exact ih

theorem get?_insert (l : Labels) (key value other : String) :
    (l.insert key value).get? other = if other = key then some value else l.get? other := by
  show (without key l.pairs ++ [(key, value)]).lookup other = _
  rw [List.lookup_append, lookup_without]
  by_cases same : other = key
  · simp [same]
  · simp [same, beq_false_of_ne same, get?]

/-- A set holds the pairs that it lists. -/
theorem holds_iff_mem (l : Labels) : l.holds pair = true ↔ pair ∈ l.pairs := by
  obtain ⟨pairs, nodup⟩ := l
  rw [holds, get?, beq_iff_eq]
  induction pairs with
  | nil => simp
  | cons p rest ih =>
      obtain ⟨k, v⟩ := p
      rw [List.map_cons, List.nodup_cons] at nodup
      rw [List.lookup_cons, List.mem_cons]
      by_cases found : pair.1 = k
      · have once : pair ∉ rest := fun later =>
          nodup.1 (List.mem_map.mpr ⟨pair, later, found⟩)
        simp [found, once, Prod.ext_iff, eq_comm]
      · rw [beq_false_of_ne found]
        simp [ih nodup.2, Prod.ext_iff, found]

theorem holdsAny_iff : l.holdsAny wanted = true ↔ ∃ pair, wanted.holds pair = true ∧ l.holds pair = true := by
  simp only [holdsAny, List.any_eq_true, holds_iff_mem wanted]

/-- Asking for all of a set that is not empty is asking for each of its pairs. -/
theorem holdsAll_iff (some_wanted : wanted.isEmpty = false) :
    l.holdsAll wanted = true ↔ ∀ pair, wanted.holds pair = true → l.holds pair = true := by
  have nonempty : wanted.pairs ≠ [] := fun empty => by
    rw [isEmpty, empty] at some_wanted
    cases some_wanted
  simp only [holdsAll, some_wanted, Bool.not_false, Bool.and_true, Bool.and_eq_true,
    Bool.not_eq_true', List.all_eq_true, holds_iff_mem wanted]
  refine ⟨And.right, fun all => ⟨?_, all⟩⟩
  -- a set that holds a pair is not empty
  obtain ⟨pair, first⟩ := List.exists_mem_of_ne_nil _ nonempty
  have held : pair ∈ l.pairs := (holds_iff_mem l).mp (all pair first)
  exact List.isEmpty_eq_false_iff.mpr (List.ne_nil_of_mem held)

/-! ## Sets made of pairs -/

/-- The pair is the last one of a list with its key. -/
def IsLast (pairs : List (String × String)) (pair : String × String) : Prop :=
  (pairs.filter (·.1 = pair.1)).getLast? = some pair

/-- The list has one value for each key. -/
def Unambiguous (pairs : List (String × String)) : Prop :=
  ∀ p ∈ pairs, ∀ q ∈ pairs, p.1 = q.1 → p = q

theorem IsLast.mem (isLast : IsLast pairs pair) : pair ∈ pairs :=
  (List.mem_filter.mp (List.mem_of_getLast? isLast)).1

/-- Every key of a list has a last pair. -/
theorem exists_isLast (listed : pair ∈ pairs) : ∃ last, IsLast pairs last ∧ last.1 = pair.1 := by
  have own : pair ∈ pairs.filter (·.1 = pair.1) := List.mem_filter.mpr ⟨listed, by simp⟩
  obtain ⟨last, found⟩ := Option.isSome_iff_exists.mp
    (List.getLast?_isSome.mpr (List.ne_nil_of_mem own))
  have key : last.1 = pair.1 := by
    simpa using (List.mem_filter.mp (List.mem_of_getLast? found)).2
  exact ⟨last, by rw [IsLast, key]; exact found, key⟩

theorem IsLast.unique {other : String × String} (isLast : IsLast pairs pair)
    (isLast' : IsLast pairs other) (key : pair.1 = other.1) : pair = other := by
  rw [IsLast] at isLast isLast'
  rw [key, isLast'] at isLast
  exact (Option.some.inj isLast).symm

/-- All pairs of a list are the last ones exactly if it has one value for each key. -/
theorem unambiguous_iff : Unambiguous pairs ↔ ∀ p ∈ pairs, IsLast pairs p := by
  constructor
  · intro one p listed
    obtain ⟨last, isLast, key⟩ := exists_isLast listed
    exact one last isLast.mem p listed key ▸ isLast
  · exact fun all p listed q listed' key => (all p listed).unique (all q listed') key

/-- **A set made of pairs has the last value of each key.** -/
theorem get?_ofPairs (pairs : List (String × String)) (key : String) :
    (ofPairs pairs).get? key = (pairs.filter (·.1 = key)).getLast?.map Prod.snd := by
  induction pairs using List.reverseRecOn with
  | nil => rfl
  | append_singleton earlier p ih =>
      have added : ofPairs (earlier ++ [p]) = (ofPairs earlier).insert p.1 p.2 := by
        rw [ofPairs, List.foldl_append]
        rfl
      rw [added, get?_insert, ih, List.filter_append]
      by_cases own : p.1 = key
      · simp [own]
      · simp [own, Ne.symm own]

theorem holds_ofPairs : (ofPairs pairs).holds pair = true ↔ IsLast pairs pair := by
  rw [holds, beq_iff_eq, get?_ofPairs, IsLast, Option.map_eq_some_iff]
  constructor
  · rintro ⟨last, found, value⟩
    have key : last.1 = pair.1 := by
      simpa using (List.mem_filter.mp (List.mem_of_getLast? found)).2
    rw [found, Prod.ext key value]
  · exact fun found => ⟨pair, found, rfl⟩

theorem isEmpty_ofPairs : (ofPairs pairs).isEmpty = true ↔ pairs = [] := by
  constructor
  · intro empty
    refine List.eq_nil_iff_forall_not_mem.mpr fun pair listed => ?_
    obtain ⟨last, isLast, -⟩ := exists_isLast listed
    have held := (holds_iff_mem _).mp (holds_ofPairs.mpr isLast)
    rw [List.isEmpty_iff.mp empty] at held
    cases held
  · rintro rfl
    rfl

/-! ## Asking for any and for all -/

theorem holdsAny_ofPairs :
    l.holdsAny (ofPairs pairs) = true ↔ ∃ pair, IsLast pairs pair ∧ l.holds pair = true := by
  simp only [holdsAny_iff, holds_ofPairs]

theorem holdsAll_ofPairs (some_wanted : pairs ≠ []) :
    l.holdsAll (ofPairs pairs) = true ↔ ∀ pair, IsLast pairs pair → l.holds pair = true := by
  have nonempty : (ofPairs pairs).isEmpty = false := by
    rw [← Bool.not_eq_true, isEmpty_ofPairs]
    exact some_wanted
  simp only [holdsAll_iff nonempty, holds_ofPairs]

/-- **Any pair of a list counts exactly if the list has one value for each key.** -/
theorem holdsAny_all_iff : Unambiguous pairs ↔ ∀ l : Labels,
    (∃ pair, IsLast pairs pair ∧ l.holds pair = true) ↔ ∃ pair ∈ pairs, l.holds pair = true := by
  rw [unambiguous_iff]
  constructor
  · intro all l
    constructor
    · exact fun ⟨pair, isLast, held⟩ => ⟨pair, isLast.mem, held⟩
    · exact fun ⟨pair, listed, held⟩ => ⟨pair, all pair listed, held⟩
  · intro counts p listed
    -- the set of this pair alone
    let alone : Labels := ⟨[p], by simp⟩
    obtain ⟨q, isLast, held⟩ :=
      (counts alone).mpr ⟨p, listed, (holds_iff_mem alone).mpr List.mem_cons_self⟩
    obtain rfl : q = p := List.mem_singleton.mp ((holds_iff_mem alone).mp held)
    exact isLast

/-- **All pairs of a list count exactly if the list has one value for each key.** -/
theorem holdsAll_all_iff : Unambiguous pairs ↔ ∀ l : Labels,
    (∃ pair, IsLast pairs pair ∧ l.holds pair = false) ↔ ∃ pair ∈ pairs, l.holds pair = false := by
  rw [unambiguous_iff]
  constructor
  · intro all l
    constructor
    · exact fun ⟨pair, isLast, missing⟩ => ⟨pair, isLast.mem, missing⟩
    · exact fun ⟨pair, listed, missing⟩ => ⟨pair, all pair listed, missing⟩
  · intro counts p listed
    -- the set of the pairs themselves lacks none of the last ones
    cases held : (ofPairs pairs).holds p with
    | true => exact holds_ofPairs.mp held
    | false =>
        obtain ⟨q, isLast, missing⟩ := (counts (ofPairs pairs)).mpr ⟨p, listed, held⟩
        rw [holds_ofPairs.mpr isLast] at missing
        cases missing

end StartupGate.Labels
