/-
# StartupGate.Proofs.Text.Spelling -- the ways to write a text in a query

A query may write a character of ASCII as itself or as the escape of its byte, in digits of either
case, and a space also as `+`.  These are the spellings of a text (`Spells`).

* `utf8_decode_eq_iff`: only the bytes of a text of ASCII are read as that text.  Other bytes give
  characters beyond ASCII, the one for broken text among them.
* `decode_eq_ofList_iff`: a text of ASCII is read from its spellings and from nothing else.
* `lookup_decodePairs`: the value of a key is read from the first piece of a query that has the key.

The percent sign is left out of these texts: it is also written as itself, but only where no two
hexadecimal digits follow.
-/
import Mathlib.Algebra.Group.Nat.Defs
import StartupGate.Proofs.Text.FormEncoded

set_option autoImplicit false

namespace StartupGate.FormEncoded

variable {c digit high low : Char} {b : UInt8} {n used more acc least most : Nat}
  {raw text : List Char} {bytes : List UInt8}

/-- A part of a query writes a text, one character after the other. -/
inductive Spells : List Char → List Char → Prop
  | nil : Spells [] []
  | itself {c : Char} {raw text : List Char} (literal : Literal c) (rest : Spells raw text) :
      Spells (c :: raw) (c :: text)
  | plus {raw text : List Char} (rest : Spells raw text) : Spells ('+' :: raw) (' ' :: text)
  | escape {c high low : Char} {raw text : List Char} (ascii : c.toNat < 0x80)
      (digits : ['%', high.toUpper, low.toUpper] = escapeByte (byteOf c)) (rest : Spells raw text) :
      Spells ('%' :: high :: low :: raw) (c :: text)

/-! ## Bytes that are read as ASCII -/

theorem toNat_ofNat_of_valid (valid : n < 0xd800 ∨ 0xdfff < n ∧ n < 0x110000) :
    (Char.ofNat n).toNat = n := by
  have valid' : n.isValidChar := valid
  rw [Char.ofNat, dif_pos valid']
  rfl

theorem byteOf_ofNat (ascii : b.toNat < 0x80) : byteOf (Char.ofNat b.toNat) = b := by
  have code : (Char.ofNat b.toNat).toNat = b.toNat := toNat_ofNat_of_valid (.inl (by omega))
  rw [byteOf, code, UInt8.ofNat_toNat]

/-- A byte that goes on with a sequence is in the range that the first byte leaves. -/
theorem readRest_succ (read : Utf8.readRest (more + 1) acc least most bytes = (some n, used)) :
    ∃ (b : UInt8) (rest : List UInt8) (used' : Nat), (least ≤ b.toNat ∧ b.toNat ≤ most) ∧
      Utf8.readRest more (acc * 0x40 + b.toNat % 0x40) 0x80 0xbf rest = (some n, used') := by
  cases bytes with
  | nil => cases read
  | cons b rest =>
      rw [Utf8.readRest] at read
      split at read
      · next inside =>
          have code := congrArg Prod.fst read
          exact ⟨b, rest, (Utf8.readRest more _ 0x80 0xbf rest).2, inside, Prod.ext code rfl⟩
      · cases read

/-- Each further byte adds six bits. -/
theorem div_of_readRest (read : Utf8.readRest more acc 0x80 0xbf bytes = (some n, used)) :
    n / 0x40 ^ more = acc := by
  induction more generalizing acc bytes used with
  | zero =>
      cases read
      rw [Nat.pow_zero, Nat.div_one]
  | succ more ih =>
      obtain ⟨b, rest, used', -, later⟩ := readRest_succ read
      rw [Nat.pow_succ, ← Nat.div_div_eq_div_mul, ih later]
      omega

/-- A sequence that begins beyond ASCII gives a character beyond ASCII: the ranges of the second byte
leave out what is too long and what is no character. -/
theorem le_toNat_of_readRest (beyond : 0x80 ≤ b.toNat)
    (lead : Utf8.leadByte b.toNat = some (more, acc, least, most))
    (read : Utf8.readRest more acc least most bytes = (some n, used)) :
    0x80 ≤ (Char.ofNat n).toNat := by
  rw [Utf8.leadByte, if_neg (Nat.not_lt.mpr beyond)] at lead
  -- one case for each shape of a sequence; the first byte and the range of the second decide it
  split_ifs at lead
  all_goals
    simp only [Option.some.injEq, Prod.mk.injEq] at lead
    obtain ⟨rfl, rfl, rfl, rfl⟩ := lead
    obtain ⟨second, rest, used', inside, later⟩ := readRest_succ read
    have bits := div_of_readRest later
    have valid : n < 0xd800 ∨ 0xdfff < n ∧ n < 0x110000 := by omega
    rw [toNat_ofNat_of_valid valid]
    omega

/-- A byte beyond ASCII begins a character beyond ASCII, if only the one for broken text. -/
theorem utf8_decode_beyond (beyond : 0x80 ≤ b.toNat) (bytes : List UInt8) :
    ∃ (c : Char) (later : List Char), Utf8.decode (b :: bytes) = c :: later ∧ 0x80 ≤ c.toNat := by
  have broken : 0x80 ≤ Utf8.replacement.toNat := by decide
  rw [Utf8.decode]
  cases lead : Utf8.leadByte b.toNat with
  | none => exact ⟨_, _, rfl, broken⟩
  | some shape =>
      obtain ⟨more, acc, least, most⟩ := shape
      cases read : Utf8.readRest more acc least most bytes with
      | mk code used =>
          simp only [read]
          refine ⟨_, _, rfl, ?_⟩
          cases code with
          | none => exact broken
          | some n => exact le_toNat_of_readRest beyond lead read

/-- **Only the bytes of a text of ASCII are read as that text.** -/
theorem utf8_decode_eq_iff (ascii : ∀ c ∈ text, c.toNat < 0x80) :
    Utf8.decode bytes = text ↔ bytes = text.map byteOf := by
  constructor
  · intro read
    induction bytes generalizing text with
    | nil =>
        rw [Utf8.decode] at read
        rw [← read, List.map_nil]
    | cons b rest ih =>
        by_cases small : b.toNat < 0x80
        · rw [utf8_decode_cons small] at read
          subst read
          rw [List.forall_mem_cons] at ascii
          rw [List.map_cons, byteOf_ofNat small, ← ih ascii.2 rfl]
        · obtain ⟨c, later, first, beyond⟩ := utf8_decode_beyond (Nat.not_lt.mp small) rest
          rw [← read, first] at ascii
          exact absurd (ascii c List.mem_cons_self) (Nat.not_lt.mpr beyond)
  · rintro rfl
    exact decode_ascii ascii

/-! ## Hexadecimal digits -/

theorem toNat_toUpper (c : Char) : c.toUpper.toNat =
    if 0x61 ≤ c.toNat ∧ c.toNat ≤ 0x7a then c.toNat - 0x20 else c.toNat := by
  by_cases lower : 'a'.val ≤ c.val ∧ c.val ≤ 'z'.val
  · have range : 0x61 ≤ c.toNat ∧ c.toNat ≤ 0x7a := lower
    have shift : ('A'.val - 'a'.val).toNat = 2 ^ 32 - 0x20 := by decide
    have code : c.val.toNat = c.toNat := rfl
    delta Char.toUpper
    rw [dif_pos lower, if_pos range, Char.toNat_mk, UInt32.toNat_add, shift, code]
    omega
  · have range : ¬ (0x61 ≤ c.toNat ∧ c.toNat ≤ 0x7a) := lower
    have same : c.toUpper = c := dif_neg lower
    rw [if_neg range, same]

theorem toNat_hexDigit (small : n < 16) :
    (hexDigit n).toNat = if n < 10 then 0x30 + n else 0x37 + n := by
  have zero : '0'.toNat = 0x30 := rfl
  have letter : 'A'.toNat = 0x41 := rfl
  rw [hexDigit]
  split
  · rw [toNat_ofNat_of_valid (.inl (by omega)), zero]
  · rw [toNat_ofNat_of_valid (.inl (by omega)), letter]
    omega

theorem lt_of_hexValue? (value : hexValue? b = some n) : b.toNat < 0x80 ∧ n < 16 := by
  simp only [hexValue?] at value
  split_ifs at value <;> cases value <;> omega

/-- The digits of a value are the upper-case one and the one of which it is the upper case. -/
theorem hexValue?_byteOf (ascii : digit.toNat < 0x80) (small : n < 16) :
    hexValue? (byteOf digit) = some n ↔ digit.toUpper = hexDigit n := by
  rw [← Char.toNat_inj, toNat_toUpper, toNat_hexDigit small]
  simp only [hexValue?, toNat_byteOf ascii]
  grind

theorem ascii_of_toUpper (small : n < 16) (upper : digit.toUpper = hexDigit n) :
    digit.toNat < 0x80 := by
  have code := congrArg Char.toNat upper
  rw [toNat_toUpper, toNat_hexDigit small] at code
  grind

theorem ascii_of_escapeByte (digits : ['%', high.toUpper, low.toUpper] = escapeByte b) :
    high.toNat < 0x80 ∧ low.toNat < 0x80 := by
  have range : b.toNat < 256 := b.toNat_lt
  simp only [escapeByte, List.cons.injEq, true_and, and_true] at digits
  exact ⟨ascii_of_toUpper (by omega) digits.1, ascii_of_toUpper (by omega) digits.2⟩

/-- **Two digits are read as a byte** exactly if they are the digits of its escape, in either case. -/
theorem hexPair?_byteOf (asciiHigh : high.toNat < 0x80) (asciiLow : low.toNat < 0x80) :
    hexPair? (byteOf high) (byteOf low) = some b ↔
      ['%', high.toUpper, low.toUpper] = escapeByte b := by
  have range : b.toNat < 256 := b.toNat_lt
  have highDigit := hexValue?_byteOf asciiHigh (n := b.toNat / 16) (by omega)
  have lowDigit := hexValue?_byteOf asciiLow (n := b.toNat % 16) (by omega)
  simp only [escapeByte, List.cons.injEq, true_and, and_true]
  rw [← highDigit, ← lowDigit]
  constructor
  · intro pair
    rw [hexPair?] at pair
    split at pair
    · next h l highValue lowValue =>
        cases pair
        have highSmall := (lt_of_hexValue? highValue).2
        have lowSmall := (lt_of_hexValue? lowValue).2
        have code : (UInt8.ofNat (h * 16 + l)).toNat = h * 16 + l := by
          rw [UInt8.toNat_ofNat']
          omega
        have front : (h * 16 + l) / 16 = h := by omega
        have back : (h * 16 + l) % 16 = l := by omega
        rw [code, front, back]
        exact ⟨highValue, lowValue⟩
    · cases pair
  · rintro ⟨highValue, lowValue⟩
    simp only [hexPair?, highValue, lowValue, Nat.div_add_mod', UInt8.ofNat_toNat]

theorem ascii_of_hexPair? {first second : UInt8} (pair : hexPair? first second = some b) :
    first.toNat < 0x80 ∧ second.toNat < 0x80 := by
  rw [hexPair?] at pair
  split at pair
  · next h l highValue lowValue =>
      exact ⟨(lt_of_hexValue? highValue).1, (lt_of_hexValue? lowValue).1⟩
  · cases pair

/-! ## What a part of a query is read as -/

theorem unescape_plus (bytes : List UInt8) : unescape (0x2b :: bytes) = 0x20 :: unescape bytes := by
  rcases bytes with _ | ⟨high, _ | ⟨low, rest⟩⟩
  · rfl
  · rfl
  · rw [unescape]
    rfl

/-- The escape of a byte is read as the byte. -/
theorem unescape_escape {first second : UInt8} (pair : hexPair? first second = some b) :
    unescape (0x25 :: first :: second :: bytes) = b :: unescape bytes := by
  rw [unescape, if_pos rfl, pair]

/-- A percent sign that begins no escape is read as itself. -/
theorem unescape_percent
    (alone : ∀ first second rest, bytes = first :: second :: rest → hexPair? first second = none) :
    unescape (0x25 :: bytes) = 0x25 :: unescape bytes := by
  rcases bytes with _ | ⟨first, _ | ⟨second, rest⟩⟩
  · rfl
  · rfl
  · rw [unescape, if_pos rfl, alone first second rest rfl]

/-- A character beyond ASCII is written by bytes of which the first is beyond ASCII. -/
theorem encode_cons_beyond (beyond : 0x80 ≤ c.toNat) (raw : List Char) :
    ∃ (b : UInt8) (later : List UInt8), Utf8.encode (c :: raw) = b :: later ∧ 0x80 ≤ b.toNat := by
  have last : c.toNat < 0x110000 := by
    rcases c.valid with low | ⟨-, high⟩
    · exact Nat.lt_trans low (by decide)
    · exact high
  simp only [Utf8.encode, List.flatMap_cons, Utf8.encodeChar, if_neg (Nat.not_lt.mpr beyond)]
  split_ifs
  all_goals
    refine ⟨_, _, rfl, ?_⟩
    rw [UInt8.toNat_ofNat']
    omega

/-- A raw text that is written as a byte of ASCII and more begins with the character of the byte. -/
theorem eq_cons_of_encode (written : Utf8.encode raw = b :: bytes) (ascii : b.toNat < 0x80) :
    ∃ (c : Char) (rest : List Char), raw = c :: rest ∧ c.toNat < 0x80 ∧ byteOf c = b ∧
      Utf8.encode rest = bytes := by
  cases raw with
  | nil => cases written
  | cons c rest =>
      by_cases small : c.toNat < 0x80
      · rw [encode_cons small, List.cons.injEq] at written
        exact ⟨c, rest, rfl, small, written.1, written.2⟩
      · obtain ⟨first, later, whole, beyond⟩ := encode_cons_beyond (Nat.not_lt.mp small) rest
        rw [whole, List.cons.injEq] at written
        rw [written.1] at beyond
        exact absurd ascii (Nat.not_lt.mpr beyond)

/-- A spelling is read as the bytes of the text. -/
theorem Spells.unescape_encode (spells : Spells raw text) :
    unescape (Utf8.encode raw) = text.map byteOf := by
  induction spells with
  | nil => rfl
  | itself literal rest ih =>
      obtain ⟨ascii, noEscape, noSpace⟩ := literal
      have percent := byteOf_ne ascii (by decide) noEscape
      have plus := byteOf_ne ascii (by decide) noSpace
      rw [encode_cons ascii, unescape_cons percent plus, ih, List.map_cons]
  | plus rest ih =>
      rw [encode_cons (by decide), List.map_cons, ← ih]
      exact unescape_plus _
  | escape ascii digits rest ih =>
      obtain ⟨asciiHigh, asciiLow⟩ := ascii_of_escapeByte digits
      have pair := (hexPair?_byteOf asciiHigh asciiLow).mpr digits
      rw [encode_cons (by decide), encode_cons asciiHigh, encode_cons asciiLow, List.map_cons, ← ih]
      exact unescape_escape pair

/-- **What the first character of a part is read as**, alone or with the digits behind it. -/
theorem unescape_encode_cons (c : Char) (raw : List Char) :
    (∃ (high low : Char) (raw' : List Char) (b : UInt8), c = '%' ∧ raw = high :: low :: raw' ∧
        ['%', high.toUpper, low.toUpper] = escapeByte b ∧
        unescape (Utf8.encode (c :: raw)) = b :: unescape (Utf8.encode raw')) ∨
      (c = '+' ∧ unescape (Utf8.encode (c :: raw)) = 0x20 :: unescape (Utf8.encode raw)) ∨
      (Literal c ∧ unescape (Utf8.encode (c :: raw)) = byteOf c :: unescape (Utf8.encode raw)) ∨
      ∃ (b : UInt8) (bytes : List UInt8), unescape (Utf8.encode (c :: raw)) = b :: bytes ∧
        (b = 0x25 ∨ 0x80 ≤ b.toNat) := by
  by_cases small : c.toNat < 0x80
  · rw [encode_cons small]
    by_cases percent : c = '%'
    · subst percent
      rw [show byteOf '%' = 0x25 from rfl]
      by_cases escape : ∃ first second rest b, Utf8.encode raw = first :: second :: rest ∧
          hexPair? first second = some b
      · obtain ⟨first, second, rest, b, whole, pair⟩ := escape
        obtain ⟨asciiFirst, asciiSecond⟩ := ascii_of_hexPair? pair
        obtain ⟨high, raw₁, rfl, asciiHigh, rfl, whole₁⟩ := eq_cons_of_encode whole asciiFirst
        obtain ⟨low, raw₂, rfl, asciiLow, rfl, rfl⟩ := eq_cons_of_encode whole₁ asciiSecond
        have digits := (hexPair?_byteOf asciiHigh asciiLow).mp pair
        refine .inl ⟨high, low, raw₂, b, rfl, rfl, digits, ?_⟩
        rw [whole, unescape_escape pair]
      · have alone : ∀ first second rest, Utf8.encode raw = first :: second :: rest →
            hexPair? first second = none := by
          intro first second rest whole
          rw [Option.eq_none_iff_forall_ne_some]
          exact fun b pair => escape ⟨first, second, rest, b, whole, pair⟩
        exact .inr (.inr (.inr ⟨0x25, _, unescape_percent alone, .inl rfl⟩))
    · by_cases plus : c = '+'
      · subst plus
        exact .inr (.inl ⟨rfl, unescape_plus _⟩)
      · have noPercent := byteOf_ne small (by decide) percent
        have noPlus := byteOf_ne small (by decide) plus
        exact .inr (.inr (.inl ⟨⟨small, percent, plus⟩, unescape_cons noPercent noPlus _⟩))
  · obtain ⟨b, later, whole, beyond⟩ := encode_cons_beyond (Nat.not_lt.mp small) raw
    have noPercent : b ≠ 0x25 := by
      rintro rfl
      exact absurd beyond (by decide)
    have noPlus : b ≠ 0x2b := by
      rintro rfl
      exact absurd beyond (by decide)
    rw [whole]
    exact .inr (.inr (.inr ⟨b, _, unescape_cons noPercent noPlus later, .inr beyond⟩))

/-- Nothing but a spelling is read as the bytes of a text of ASCII. -/
theorem spells_of_unescape (ascii : ∀ c ∈ text, c.toNat < 0x80) (noPercent : '%' ∉ text)
    (read : unescape (Utf8.encode raw) = text.map byteOf) : Spells raw text := by
  -- on the length, since an escape takes three characters at once
  induction size : raw.length using Nat.strong_induction_on generalizing raw text with
  | _ size' ih =>
      subst size
      cases raw with
      | nil =>
          have empty : text = [] := List.map_eq_nil_iff.mp read.symm
          rw [empty]
          exact .nil
      | cons c rest =>
          rcases unescape_encode_cons c rest with ⟨high, low, raw', b, rfl, rfl, digits, first⟩ |
            ⟨rfl, first⟩ | ⟨literal, first⟩ | ⟨b, bytes, first, other⟩
          all_goals
            rw [first] at read
            obtain ⟨d, text', rfl, same, later⟩ := List.map_eq_cons_iff.mp read.symm
            rw [List.forall_mem_cons] at ascii
            rw [List.mem_cons, not_or] at noPercent
          · subst same
            refine .escape ascii.1 digits (ih _ ?_ ascii.2 noPercent.2 later.symm rfl)
            simp only [List.length_cons]
            omega
          · obtain rfl : d = ' ' := byteOf_inj ascii.1 (by decide) same
            exact .plus (ih _ (Nat.lt_succ_self _) ascii.2 noPercent.2 later.symm rfl)
          · obtain rfl : d = c := byteOf_inj ascii.1 literal.ascii same
            exact .itself literal (ih _ (Nat.lt_succ_self _) ascii.2 noPercent.2 later.symm rfl)
          · subst same
            rcases other with percent | beyond
            · have same : byteOf '%' = byteOf d := percent.symm
              exact absurd (byteOf_inj (by decide) ascii.1 same) noPercent.1
            · rw [toNat_byteOf ascii.1] at beyond
              exact absurd ascii.1 (Nat.not_lt.mpr beyond)

/-- **A text of ASCII is read from its spellings and from nothing else.** -/
theorem decode_eq_ofList_iff (ascii : ∀ c ∈ text, c.toNat < 0x80) (noPercent : '%' ∉ text) :
    decode raw = String.ofList text ↔ Spells raw text := by
  rw [decode, String.ofList_inj, utf8_decode_eq_iff ascii]
  constructor
  · exact spells_of_unescape ascii noPercent
  · exact Spells.unescape_encode

/-! ## The pieces of a query -/

/-- What stands before the first equals sign of a piece, or all of it. -/
def keyPart (piece : List Char) : List Char := piece.takeWhile (· ≠ '=')

/-- What stands behind the first equals sign of a piece. -/
def valuePart (piece : List Char) : List Char := (piece.dropWhile (· ≠ '=')).tail

theorem decode_nil : decode [] = "" := by
  simp [decode, Utf8.encode, unescape, Utf8.decode]

theorem decodePair_eq (piece : List Char) :
    decodePair piece = (decode (keyPart piece), decode (valuePart piece)) := by
  rw [decodePair, Text.splitFirst_eq]
  by_cases cut : '=' ∈ piece
  · rw [if_pos cut]
    rfl
  · rw [if_neg cut, keyPart, valuePart, Text.takeWhile_ne cut, Text.dropWhile_ne cut, List.tail_nil,
      decode_nil]

/-- **The value of a key** is read from the first piece that has the key.  Empty pieces are skipped, but
they do not have it anyway. -/
theorem lookup_decodePairs {key : String} (named : key ≠ "") (query : List Char) :
    (decodePairs query).lookup key =
      ((query.splitOn '&').find? fun piece => decode (keyPart piece) = key).map fun piece =>
        decode (valuePart piece) := by
  rw [decodePairs, Text.splitAll_eq_splitOn]
  induction query.splitOn '&' with
  | nil => rfl
  | cons piece pieces ih =>
      by_cases empty : piece = []
      · have nothing : decode (keyPart []) = "" := decode_nil
        have unnamed : ¬ decode (keyPart piece) = key := by
          rw [empty, nothing]
          exact Ne.symm named
        rw [List.filter_cons_of_neg (by simp [empty]), ih, List.find?_cons_of_neg (by simpa)]
      · rw [List.filter_cons_of_pos (by simp [empty]), List.map_cons, decodePair_eq, List.lookup_cons,
          ih]
        by_cases here : decode (keyPart piece) = key
        · simp [here]
        · have other : (key == decode (keyPart piece)) = false := beq_false_of_ne (Ne.symm here)
          simp [here, other]

end StartupGate.FormEncoded
