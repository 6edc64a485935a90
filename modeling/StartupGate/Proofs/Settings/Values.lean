/-
# StartupGate.Proofs.Settings.Values -- a value that is written reads back

A value has one written form (`Value.spelling`), and a kind of setting reads it back from there if the kind
has room for it (`Value.Fits`).  Values of a list are written one by one or joined by commas, which no
written value of a list has.

* `Value.read_spelling`: a value is read back.
* `Kind.readAll_single`, `Kind.readAll_joined`: so are the values of one occurrence.
-/
import StartupGate.Proofs.Endpoint
import StartupGate.Settings.Setting
import StartupGate.Labels

set_option autoImplicit false

namespace StartupGate

/-! ## Labels -/

/-- **A pair is written so that it reads back** if neither side is empty or has a colon. -/
theorem Labels.readPair_pairText {key value : String} (someKey : key ≠ "") (someValue : value ≠ "")
    (plainKey : ':' ∉ key.toList) (plainValue : ':' ∉ value.toList) :
    readPair (pairText (key, value)) = .ok (key, value) := by
  have letters : (pairText (key, value)).toList = key.toList ++ ':' :: value.toList := by
    simp [pairText, String.toList_append]
  have cut : Text.splitAll ':' (key.toList ++ ':' :: value.toList) = [key.toList, value.toList] := by
    rw [Text.splitAll_append plainKey, Text.splitAll_eq_singleton plainValue]
  have keyLetters : key.toList ≠ [] := by simpa using someKey
  have valueLetters : value.toList ≠ [] := by simpa using someValue
  rw [readPair, letters, cut]
  simp [keyLetters, valueLetters]

namespace Settings

/-! ## Single values -/

/-- No number that a kind has room for is beyond what its reader takes. -/
def Kind.InReach : Kind → Prop
  | .ranged limit => limit ≤ maxSigned64
  | _ => True

theorem Setting.inReach (s : Setting) : s.kind.InReach := by
  cases s <;> simp [kind, entry, Kind.InReach] <;> decide

namespace Value

/-- The written form of a value. -/
def spelling : Value → String
  | .text value => value
  | .number value => Integer.toText value
  | .truth value => if value then "true" else "false"
  | .endpoint value => value.source
  | .label key value => Labels.pairText (key, value)

/-- A kind of setting has room for a value, and the value can be written for it: a truth value by its
flag, an endpoint that was read from some text, a pair with something other than a colon on either side,
and neither of the two with a comma. -/
def Fits : Kind → Value → Prop
  | .text, .text _ => True
  | .ranged limit, .number value => value ≤ limit
  | .count, .number value => value ≤ Integer.maxUnsigned64
  | .truth, .truth value => value = true
  | .endpoints, .endpoint value => (∃ text, Endpoint.read text = .ok value) ∧ ',' ∉ value.source.toList
  | .labels, .label key value =>
      key ≠ "" ∧ value ≠ "" ∧ ':' ∉ key.toList ∧ ':' ∉ value.toList ∧
        ',' ∉ key.toList ∧ ',' ∉ value.toList
  | _, _ => False

variable {k : Kind} {v : Value}

/-- **A value is written so that it reads back.** -/
theorem read_spelling (fits : v.Fits k) (inReach : k.InReach) : k.read v.spelling = .ok v := by
  cases k with
  | text =>
      cases v <;> cases fits
      rfl
  | truth =>
      cases v with
      | truth value =>
          cases fits
          rfl
      | _ => cases fits
  | ranged limit =>
      cases v with
      | number value =>
          have below : value ≤ limit := fits
          have read := Integer.readSigned_decimalDigits (Nat.le_trans below inReach)
          simp only [Kind.read, spelling, Integer.toList_toText, read]
          simp [below]
      | _ => cases fits
  | count =>
      cases v with
      | number value =>
          have read := Integer.readUnsigned_decimalDigits fits
          simp only [Kind.read, spelling, Integer.toList_toText, read]
      | _ => cases fits
  | endpoints =>
      cases v with
      | endpoint value =>
          obtain ⟨readable, -⟩ := fits
          have read := Endpoint.read_source (Endpoint.readable_iff.mpr readable)
          simp only [Kind.read, spelling, read]
      | _ => cases fits
  | labels =>
      cases v with
      | label key value =>
          obtain ⟨someKey, someValue, plainKey, plainValue, -⟩ := fits
          have read := Labels.readPair_pairText someKey someValue plainKey plainValue
          simp only [Kind.read, spelling, read]
      | _ => cases fits

/-- No written value of a list has a comma. -/
theorem comma_notMem_spelling (fits : v.Fits k) (isList : k.isList = true) : ',' ∉ v.spelling.toList := by
  cases k with
  | endpoints =>
      cases v with
      | endpoint value => exact fits.2
      | _ => cases fits
  | labels =>
      cases v with
      | label key value =>
          obtain ⟨-, -, -, -, wholeKey, wholeValue⟩ := fits
          simp [spelling, Labels.pairText, String.toList_append, wholeKey, wholeValue]
      | _ => cases fits
  | _ => cases isList

end Value

/-! ## The values of one occurrence -/

namespace Kind

variable {k : Kind} {v : Value} {values : List Value}

theorem readPieces_spellings (inReach : k.InReach) (fit : ∀ v ∈ values, v.Fits k) :
    k.readPieces (values.map Value.spelling) = .ok values := by
  induction values with
  | nil => rfl
  | cons v rest ih =>
      have first := Value.read_spelling (fit v List.mem_cons_self) inReach
      have later := ih fun v member => fit v (List.mem_cons_of_mem _ member)
      simp only [List.map_cons, readPieces, first, later]

/-- **An occurrence of one value reads back.** -/
theorem readAll_single (inReach : k.InReach) (fits : v.Fits k) :
    k.readAll v.spelling = .ok [v] := by
  have pieces : k.pieces v.spelling = [v.spelling] := by
    unfold Kind.pieces
    split
    · next isList =>
        have noComma := Value.comma_notMem_spelling fits isList
        rw [Text.splitAll_eq_singleton noComma]
        simp
    · rfl
  rw [readAll, pieces, readPieces, Value.read_spelling fits inReach]
  rfl

/-- **An occurrence of all values of a list reads back.** -/
theorem readAll_joined (inReach : k.InReach) (isList : k.isList = true)
    (fit : ∀ v ∈ values, v.Fits k) (some' : values ≠ []) :
    k.readAll (",".intercalate (values.map Value.spelling)) = .ok values := by
  have noComma : ∀ letters ∈ (values.map Value.spelling).map String.toList, ',' ∉ letters := by
    intro letters member
    simp only [List.map_map, List.mem_map, Function.comp_apply] at member
    obtain ⟨v, member, rfl⟩ := member
    exact Value.comma_notMem_spelling (fit v member) isList
  have pieces : k.pieces (",".intercalate (values.map Value.spelling)) = values.map Value.spelling := by
    have letters : ",".toList = [','] := rfl
    rw [Kind.pieces, if_pos isList, String.toList_intercalate, letters,
      Text.splitAll_intercalate noComma (by simpa using some'), List.map_map]
    simp [Function.comp_def]
  rw [readAll, pieces]
  exact readPieces_spellings inReach fit

end Kind

end Settings

end StartupGate
