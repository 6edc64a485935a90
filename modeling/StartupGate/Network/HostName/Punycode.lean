/-
# StartupGate.Network.HostName.Punycode -- labels written with ASCII characters

A label with other characters is written as its ASCII characters, a hyphen if there are
any, and a code that says which further characters stand where.  `decode?` reads that
code: each number in it, in digits of varying weight, says how far to move through the
places of the label and then through the code points.  A written label with any other
character stands for nothing.
-/
import StartupGate.Text.Split

set_option autoImplicit false

namespace StartupGate.HostName.Punycode

def digit? (c : Char) : Option Nat :=
  if 'a' ≤ c ∧ c ≤ 'z' then some (c.toNat - 'a'.toNat)
  else if 'A' ≤ c ∧ c ≤ 'Z' then some (c.toNat - 'A'.toNat)
  else if c.isDigit then some (c.toNat - '0'.toNat + 26)
  else none

/-- A digit below the threshold of its place ends a number. -/
def threshold (place bias : Nat) : Nat :=
  if place ≤ bias then 1 else if bias + 26 ≤ place then 26 else place - bias

/-- Divides a number until it is small; gives it with 36 for each division. -/
def shrink (delta : Nat) : Nat × Nat :=
  if 455 < delta then
    let (rest, bias) := shrink (delta / 35)
    (rest, bias + 36)
  else (delta, 0)
termination_by delta
decreasing_by omega

/-- The bias for the next number, from the one that was read. -/
def adapt (delta count : Nat) (isFirst : Bool) : Nat :=
  let delta := if isFirst then delta / 700 else delta / 2
  let (rest, bias) := shrink (delta + delta / count)
  bias + 36 * rest / (rest + 38)

/-- The numbers of the code are below this one. -/
def wordLimit : Nat := Nat.pow 2 32

/-- Reads the digits of a number onto `total`; gives the sum and the rest. -/
def readNumber (bias : Nat) : (place weight total : Nat) → List Char → Option (Nat × List Char)
  | _, _, _, [] => none
  | place, weight, total, c :: rest => do
      let d ← digit? c
      let total := total + d * weight
      guard (total < wordLimit)
      let t := threshold place bias
      if d < t then return (total, rest)
      else
        guard (weight * (36 - t) < wordLimit)
        readNumber bias (place + 36) (weight * (36 - t)) total rest

/-- Reads the numbers of the code, at most `fuel`, and puts their characters into `text`. -/
def readInsertions : (fuel : Nat) → (text : List Nat) → (code place bias : Nat) → List Char →
    Option (List Nat)
  | _, text, _, _, _, [] => some text
  | 0, _, _, _, _, _ :: _ => none
  | fuel + 1, text, code, place, bias, c :: r => do
      let (total, rest) ← readNumber bias 36 1 place (c :: r)
      let count := text.length + 1
      let code := code + total / count
      guard (code.isValidChar)
      let next := total % count
      readInsertions fuel (text.insertIdx next code) code (next + 1)
        (adapt (total - place) count (place == 0)) rest

def isBasic (c : Char) : Bool := c.toNat < 128

/-- The code points that a label stands for, without what marks it as written in this code. -/
def decode? (label : List Char) : Option (List Nat) :=
  let (plain, code) := match Text.splitLast '-' label with
    | some ([], _) => ([], label)
    | some parts => parts
    | none => ([], label)
  if plain.all isBasic then readInsertions code.length (plain.map Char.toNat) 128 0 72 code else none

end StartupGate.HostName.Punycode
