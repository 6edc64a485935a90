/-
# StartupGate.Proofs.Json.Parser -- plain text is read as what it writes

A text of objects and strings without blanks and escapes writes one tree (`Json.Writes`), and reading it
gives that tree (`Json.Writes.parse?_eq_some`).
-/
import StartupGate.Json.Parser

set_option autoImplicit false

namespace StartupGate.Json

/-! ## Strings -/

/-- A character that stands for itself in a string. -/
def isPlain (c : Char) : Bool := c ≠ '"' && c ≠ '\\' && 0x20 ≤ c.toNat

theorem readString_plain {c : Char} (plain : isPlain c) (acc : Option (List Char)) (r : List Char) :
    readString acc (c :: r) = readString (acc.map (c :: ·)) r := by
  obtain ⟨⟨quote, backslash⟩, above⟩ : (c ≠ '"' ∧ c ≠ '\\') ∧ 0x20 ≤ c.toNat := by
    simpa [isPlain] using plain
  rw [readString]
  · rw [if_neg (Nat.not_lt.mpr above)]
  -- none of the equations for a quote or a backslash applies
  all_goals simp [quote, backslash]

/-- Plain characters up to a quote are read as they are. -/
theorem readString_append {cs : List Char} (plain : cs.all isPlain) (acc r : List Char) :
    readString (some acc) (cs ++ '"' :: r) = some (some (String.ofList (acc.reverse ++ cs)), r) := by
  induction cs generalizing acc with
  | nil => simp [readString]
  | cons c cs ih =>
      rw [List.all_cons, Bool.and_eq_true] at plain
      rw [List.cons_append, readString_plain plain.1, Option.map_some, ih plain.2]
      simp

/-! ## Trees -/

/-- A text writes a tree, with plain strings only and one field in each object. -/
inductive Writes : List Char → Tree → Prop
  | string {cs : List Char} (plain : cs.all isPlain) :
      Writes ('"' :: (cs ++ ['"'])) (.leaf (some (.string (String.ofList cs))))
  | object {name text : List Char} {tree : Tree} (plain : name.all isPlain)
      (field : Writes text tree) :
      Writes ('\x7b' :: '"' :: (name ++ '"' :: ':' :: (text ++ ['\x7d'])))
        (.object [(some (String.ofList name), tree)])

variable {text : List Char} {tree : Tree}

/-- A written tree is read up to its end, whatever comes after it. -/
theorem Writes.readTree_append (writes : Writes text tree) {fuel : Nat} (enough : text.length < fuel)
    (r : List Char) : readTree fuel (text ++ r) = some (tree, r) := by
  induction writes generalizing fuel r with
  | @string cs plain =>
      obtain ⟨fuel, rfl⟩ := Nat.exists_eq_succ_of_ne_zero (Nat.ne_zero_of_lt enough)
      simp [readTree, skipSpace, isSpace, readStringLeaf, readString_append plain]
  | @object name text tree plain field ih =>
      -- one step for the object and one for its field
      obtain ⟨fuel, rfl⟩ : ∃ n, fuel = n + 2 := ⟨fuel - 2, by simp at enough; omega⟩
      have inner : text.length < fuel := by simp at enough; omega
      simp [readTree, readFields, skipSpace, isSpace, readString_append plain, ih inner]

/-- **What plain text writes is what is read.** -/
theorem Writes.parse?_eq_some (writes : Writes text tree) :
    Tree.parse? (String.ofList text) = some tree := by
  have enough : text.length < 2 * text.length + 2 := by omega
  have reads := writes.readTree_append enough []
  rw [List.append_nil] at reads
  simp [Tree.parse?, reads, skipSpace]

end StartupGate.Json
