/-
# StartupGate.Text.Split -- cutting a text at a separator

`splitAll` cuts at every occurrence of a character and always gives at least one
piece; `splitFirst` and `splitLast` cut once, at the first or the last occurrence,
and fail if there is none.  Joining the pieces by the separator gives the text back.
-/

set_option autoImplicit false

namespace StartupGate.Text

/-- The pieces between the occurrences of a separator, empty ones included. -/
def splitAll (sep : Char) : List Char → List (List Char)
  | [] => [[]]
  | c :: r =>
      if c = sep then [] :: splitAll sep r
      else match splitAll sep r with
        | [] => [[c]]
        | piece :: rest => (c :: piece) :: rest

/-- The part before the first occurrence of a separator and the part after it. -/
def splitFirst (sep : Char) : List Char → Option (List Char × List Char)
  | [] => none
  | c :: r =>
      if c = sep then some ([], r)
      else (splitFirst sep r).map fun (before, after) => (c :: before, after)

/-- A text is cut at the first separator. -/
theorem splitFirst_append {sep : Char} {before after : List Char} (first : sep ∉ before) :
    splitFirst sep (before ++ sep :: after) = some (before, after) := by
  induction before with
  | nil => simp [splitFirst]
  | cons c rest ih =>
      rw [List.mem_cons, not_or] at first
      simp [splitFirst, Ne.symm first.1, ih first.2]

/-- A text without the separator is not cut. -/
theorem splitFirst_eq_none {sep : Char} {cs : List Char} (absent : sep ∉ cs) :
    splitFirst sep cs = none := by
  induction cs with
  | nil => rfl
  | cons c rest ih =>
      rw [List.mem_cons, not_or] at absent
      simp [splitFirst, Ne.symm absent.1, ih absent.2]

/-- The part before the last occurrence of a separator and the part after it. -/
def splitLast (sep : Char) : List Char → Option (List Char × List Char)
  | [] => none
  | c :: r =>
      match splitLast sep r with
      | some (before, after) => some (c :: before, after)
      | none => if c = sep then some ([], r) else none

/-- The text after a given beginning, if it begins so. -/
def afterStart : List Char → List Char → Option (List Char)
  | [], cs => some cs
  | _ :: _, [] => none
  | p :: ps, c :: cs => if p = c then afterStart ps cs else none

/-- The part before the first occurrence of a separating text and the part after it. -/
def splitFirstText (sep : List Char) : List Char → Option (List Char × List Char)
  | [] => (afterStart sep []).map fun after => ([], after)
  | c :: r =>
      match afterStart sep (c :: r) with
      | some after => some ([], after)
      | none => (splitFirstText sep r).map fun (before, after) => (c :: before, after)

end StartupGate.Text
