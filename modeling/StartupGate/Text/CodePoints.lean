/-
# StartupGate.Text.CodePoints -- tables of code points

A table of a character property is a list of ranges, in order.  It is written as rows of
entries between blanks, with code points in hexadecimal: `df` stands for one code point
and `61-7a` for all from the first to the last.
-/
import StartupGate.Text.Split

set_option autoImplicit false

namespace StartupGate.Text

/-! ## Membership -/

/-- Whether one of the ranges numbered `low` up to but excluding `high` holds `n`, by halving. -/
def inRanges (ranges : Array (Nat × Nat)) (n low high : Nat) : Bool :=
  if _h : low < high then
    let mid := (low + high) / 2
    match ranges[mid]? with
    | none => false
    | some (first, last) =>
        if n < first then inRanges ranges n low mid
        else if last < n then inRanges ranges n (mid + 1) high
        else true
  else false
termination_by high - low
decreasing_by all_goals omega

/-- A code point is in one of the ranges of a table. -/
def isIn (ranges : Array (Nat × Nat)) (n : Nat) : Bool := inRanges ranges n 0 ranges.size

/-! ## Written tables -/

def tableDigit (c : Char) : Nat :=
  if c.isDigit then c.toNat - '0'.toNat else c.toNat - 'a'.toNat + 10

def tableCode (cs : List Char) : Nat := cs.foldl (fun n c => n * 16 + tableDigit c) 0

def tableEntries (rows : List String) : List (List Char) :=
  rows.flatMap fun row => splitAll ' ' row.toList

/-- The range that an entry stands for. -/
def tableRange (entry : List Char) : Nat × Nat :=
  match splitFirst '-' entry with
  | some (first, last) => (tableCode first, tableCode last)
  | none => (tableCode entry, tableCode entry)

def tableRanges (rows : List String) : Array (Nat × Nat) :=
  ((tableEntries rows).map tableRange).toArray

end StartupGate.Text
