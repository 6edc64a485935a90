/-
# StartupGate.Labels -- sets of labels and the tests between them

`Labels` maps keys to values, one value for a key (`Labels.keys_nodup`); inserting a key
again replaces its value.  A selection by labels asks for all pairs of a set or for any;
asking for all is refused when either side is empty, so a filter without labels selects
nothing, and callers that mean "no constraint" by an empty set say so themselves.
-/
import StartupGate.Text.Split

set_option autoImplicit false

namespace StartupGate

structure Labels where
  pairs : List (String × String)
  keys_nodup : (pairs.map Prod.fst).Nodup

namespace Labels

def empty : Labels := ⟨[], List.nodup_nil⟩

instance : Inhabited Labels := ⟨empty⟩

def get? (l : Labels) (key : String) : Option String := l.pairs.lookup key

def isEmpty (l : Labels) : Bool := l.pairs.isEmpty

def without (key : String) (pairs : List (String × String)) : List (String × String) :=
  pairs.filter (·.1 != key)

def insert (l : Labels) (key value : String) : Labels where
  pairs := without key l.pairs ++ [(key, value)]
  keys_nodup := by
    have h : ((without key l.pairs).map Prod.fst).Nodup :=
      l.keys_nodup.sublist (List.Sublist.map _ List.filter_sublist)
    rw [List.map_append, List.nodup_append]
    refine ⟨h, by simp, ?_⟩
    intro a ha b hb hab
    simp only [List.map_cons, List.map_nil, List.mem_singleton] at hb
    subst hab hb
    simp [without, List.mem_filter] at ha

/-- The labels of a list of pairs; of several pairs with one key the last counts. -/
def ofPairs (pairs : List (String × String)) : Labels :=
  pairs.foldl (fun l p => l.insert p.1 p.2) empty

def holds (l : Labels) (pair : String × String) : Bool := l.get? pair.1 == some pair.2

/-- Neither side is empty and every pair of `wanted` is held. -/
def holdsAll (l wanted : Labels) : Bool :=
  !l.isEmpty && !wanted.isEmpty && wanted.pairs.all l.holds

/-- At least one pair of `wanted` is held. -/
def holdsAny (l wanted : Labels) : Bool := wanted.pairs.any l.holds

/-- A node with these labels satisfies a selector; the empty selector is no constraint. -/
def satisfies (node selector : Labels) : Bool := selector.isEmpty || node.holdsAll selector

end Labels

/-! ## Written pairs -/

/-- The text is no `key:value` pair. -/
structure LabelPairError where
  raw : String
  deriving DecidableEq, Repr

def LabelPairError.message (e : LabelPairError) : String :=
  "Failed to parse label '" ++ e.raw ++ "', expected key:value"

/-- Reads `key:value`: exactly one colon, and something on either side of it. -/
def Labels.readPair (raw : String) : Except LabelPairError (String × String) :=
  match Text.splitAll ':' raw.toList with
  | [key, value] =>
      if key ≠ [] ∧ value ≠ [] then .ok (String.ofList key, String.ofList value)
      else .error ⟨raw⟩
  | _ => .error ⟨raw⟩

def Labels.pairText (pair : String × String) : String := pair.1 ++ ":" ++ pair.2

end StartupGate
