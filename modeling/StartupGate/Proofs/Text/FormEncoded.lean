/-
# StartupGate.Proofs.Text.FormEncoded -- queries that need no decoding

A character of ASCII that begins no escape and stands for no space is written as one byte and read as
itself (`Literal`).  So keys and values of such characters are read as they are written, and a query of
one key and one value as the pair of them (`decodePairs_single`).
-/
import StartupGate.Proofs.Text.Split
import StartupGate.Text.FormEncoded

set_option autoImplicit false

namespace StartupGate.FormEncoded

variable {c : Char} {b : UInt8} {cs key value : List Char} {bytes : List UInt8}

/-- A character that stands for itself in a query. -/
structure Literal (c : Char) : Prop where
  ascii : c.toNat < 0x80
  noEscape : c ≠ '%'
  noSpace : c ≠ '+'

/-- What ASCII has behind the plus sign stands for itself. -/
theorem literal_of_between (behind : '+'.toNat < c.toNat) (ascii : c.toNat < 0x80) : Literal c where
  ascii := ascii
  noEscape := by
    rintro rfl
    revert behind
    decide
  noSpace := by
    rintro rfl
    exact Nat.lt_irrefl _ behind

theorem literal_of_isDigit (digit : c.isDigit = true) : Literal c := by
  obtain ⟨first, last⟩ : 48 ≤ c.toNat ∧ c.toNat ≤ 57 := Char.isDigit_iff_toNat.mp digit
  have plus : '+'.toNat = 43 := rfl
  apply literal_of_between
  · omega
  · omega

/-- The byte that writes a character of ASCII. -/
def byteOf (c : Char) : UInt8 := UInt8.ofNat c.toNat

theorem toNat_byteOf (ascii : c.toNat < 0x80) : (byteOf c).toNat = c.toNat := by
  rw [byteOf, UInt8.toNat_ofNat']
  omega

/-! ## Characters and bytes -/

theorem encode_cons (ascii : c.toNat < 0x80) (cs : List Char) :
    Utf8.encode (c :: cs) = byteOf c :: Utf8.encode cs := by
  have first : Utf8.encodeChar c = [byteOf c] := if_pos ascii
  rw [Utf8.encode, List.flatMap_cons, first]
  rfl

theorem encode_ascii (ascii : ∀ c ∈ cs, c.toNat < 0x80) : Utf8.encode cs = cs.map byteOf := by
  induction cs with
  | nil => rfl
  | cons c rest ih =>
      rw [List.forall_mem_cons] at ascii
      rw [encode_cons ascii.1, ih ascii.2, List.map_cons]

theorem utf8_decode_cons (ascii : b.toNat < 0x80) (bytes : List UInt8) :
    Utf8.decode (b :: bytes) = Char.ofNat b.toNat :: Utf8.decode bytes := by
  have lead : Utf8.leadByte b.toNat = some (0, b.toNat, 0, 0) := if_pos ascii
  rw [Utf8.decode, lead]
  simp only [Utf8.readRest, List.drop_zero]

theorem decode_ascii (ascii : ∀ c ∈ cs, c.toNat < 0x80) : Utf8.decode (cs.map byteOf) = cs := by
  induction cs with
  | nil => simp [Utf8.decode]
  | cons c rest ih =>
      rw [List.forall_mem_cons] at ascii
      have code := toNat_byteOf ascii.1
      rw [List.map_cons, utf8_decode_cons (code ▸ ascii.1), ih ascii.2, code, Char.ofNat_toNat]

/-- A byte that is neither a percent sign nor a plus passes through. -/
theorem unescape_cons (noEscape : b ≠ 0x25) (noSpace : b ≠ 0x2b) (bytes : List UInt8) :
    unescape (b :: bytes) = b :: unescape bytes := by
  rcases bytes with _ | ⟨high, _ | ⟨low, rest⟩⟩
  · simp [unescape, noSpace]
  · simp [unescape, noSpace]
  · rw [unescape, if_neg noEscape, if_neg noSpace]

theorem byteOf_inj {d : Char} (ascii : c.toNat < 0x80) (ascii' : d.toNat < 0x80)
    (same : byteOf c = byteOf d) : c = d := by
  have code : c.toNat = d.toNat := by
    rw [← toNat_byteOf ascii, ← toNat_byteOf ascii', same]
  exact Char.toNat_inj.mp code

theorem byteOf_ne {d : Char} (ascii : c.toNat < 0x80) (ascii' : d.toNat < 0x80) (other : c ≠ d) :
    byteOf c ≠ byteOf d :=
  mt (byteOf_inj ascii ascii') other

theorem unescape_literal (literal : ∀ c ∈ cs, Literal c) :
    unescape (cs.map byteOf) = cs.map byteOf := by
  induction cs with
  | nil => rfl
  | cons c rest ih =>
      obtain ⟨ascii, noEscape, noSpace⟩ := literal c List.mem_cons_self
      have later := ih fun c member => literal c (List.mem_cons_of_mem _ member)
      have percent : byteOf c ≠ byteOf '%' := byteOf_ne ascii (by decide) noEscape
      have plus : byteOf c ≠ byteOf '+' := byteOf_ne ascii (by decide) noSpace
      rw [List.map_cons, unescape_cons percent plus, later]

/-! ## Keys and values -/

/-- **Characters that stand for themselves are read as they are.** -/
theorem decode_literal (literal : ∀ c ∈ cs, Literal c) : decode cs = String.ofList cs := by
  have ascii : ∀ c ∈ cs, c.toNat < 0x80 := fun c member => (literal c member).ascii
  rw [decode, encode_ascii ascii, unescape_literal literal, decode_ascii ascii]

/-- **A query of one key and one value** of such characters is read as the pair of them. -/
theorem decodePairs_single (literalKey : ∀ c ∈ key, Literal c) (literalValue : ∀ c ∈ value, Literal c)
    (noEquals : '=' ∉ key) (single : '&' ∉ key ++ '=' :: value) :
    decodePairs (key ++ '=' :: value) = [(String.ofList key, String.ofList value)] := by
  rw [decodePairs, Text.splitAll_eq_singleton single, List.filter_cons_of_pos (by simp),
    List.filter_nil, List.map_singleton, decodePair, Text.splitFirst_append noEquals]
  simp only [decode_literal literalKey, decode_literal literalValue]

end StartupGate.FormEncoded
