/-
# StartupGate.Json.Parser -- reading JSON text

`Tree.parse?` reads well-formed text with nothing but blanks after it: no zeros in front
of a number, no raw control characters in strings, and only escapes that exist.
`Json.parse?` takes what was read as a value.

The functions of the mutual block take the text's length as a bound on their depth:
every second call reads a character.
-/
import StartupGate.Json.Number
import StartupGate.Json.Tree

set_option autoImplicit false

namespace StartupGate.Json

def isSpace (c : Char) : Bool := c = ' ' || c = '\t' || c = '\n' || c = '\r'

def skipSpace (cs : List Char) : List Char := cs.dropWhile isSpace

/-! ## Strings -/

def hexValue? (c : Char) : Option Nat :=
  if c.isDigit then some (c.toNat - '0'.toNat)
  else if 'a' ≤ c ∧ c ≤ 'f' then some (c.toNat - 'a'.toNat + 10)
  else if 'A' ≤ c ∧ c ≤ 'F' then some (c.toNat - 'A'.toNat + 10)
  else none

def hexQuad? (a b c d : Char) : Option Nat := do
  return (((← hexValue? a) * 16 + (← hexValue? b)) * 16 + (← hexValue? c)) * 16 + (← hexValue? d)

def escapeLetter? (c : Char) : Option Char :=
  if c = '"' ∨ c = '\\' ∨ c = '/' then some c
  else if c = 'b' then some '\x08'
  else if c = 'f' then some '\x0c'
  else if c = 'n' then some '\n'
  else if c = 'r' then some '\r'
  else if c = 't' then some '\t'
  else none

/-- The first half of a surrogate pair. -/
def isHighSurrogate (n : Nat) : Bool := 0xd800 ≤ n && n < 0xdc00

def isLowSurrogate (n : Nat) : Bool := 0xdc00 ≤ n && n < 0xe000

/-- Puts the character of an escape in front of others; half of a surrogate pair is none. -/
def pushUnit (acc : Option (List Char)) (n : Nat) : Option (List Char) :=
  if isHighSurrogate n || isLowSurrogate n then none else acc.map (Char.ofNat n :: ·)

/-- Reads the rest of a string up to its closing quote, onto the reversed `acc`; half of a surrogate
pair leaves the string without a value. -/
def readString (acc : Option (List Char)) : List Char → Option (Option String × List Char)
  | [] => none
  | '"' :: r => some (acc.map fun cs => String.ofList cs.reverse, r)
  | '\\' :: 'u' :: a :: b :: c :: d :: '\\' :: 'u' :: e :: f :: g :: h :: r =>
      match hexQuad? a b c d, hexQuad? e f g h with
      | none, _ => none
      | _, none => none
      | some n, some m =>
          if isHighSurrogate n && isLowSurrogate m then
            let c := Char.ofNat (0x10000 + (n - 0xd800) * 0x400 + (m - 0xdc00))
            readString (acc.map (c :: ·)) r
          else readString (pushUnit acc n) ('\\' :: 'u' :: e :: f :: g :: h :: r)
  | '\\' :: 'u' :: a :: b :: c :: d :: r =>
      match hexQuad? a b c d with
      | none => none
      | some n => readString (pushUnit acc n) r
  | '\\' :: c :: r =>
      match escapeLetter? c with
      | none => none
      | some e => readString (acc.map (e :: ·)) r
  | c :: r => if c.toNat < 0x20 then none else readString (acc.map (c :: ·)) r

/-! ## Values -/

/-- Reads a word that stands for a value. -/
def readWord (word : String) (value : Json) (cs : List Char) : Option (Tree × List Char) :=
  if word.toList.isPrefixOf cs then some (.leaf (some value), cs.drop word.length) else none

def readNumberLeaf (negative : Bool) (cs : List Char) : Option (Tree × List Char) :=
  (readNumber negative cs).map fun (value, rest) => (.leaf value, rest)

def readStringLeaf (cs : List Char) : Option (Tree × List Char) :=
  (readString (some []) cs).map fun (value, rest) => (.leaf (value.map .string), rest)

mutual

/-- Reads one value and gives the text after it. -/
def readTree : (fuel : Nat) → List Char → Option (Tree × List Char)
  | 0, _ => none
  | fuel + 1, cs =>
      match skipSpace cs with
      | [] => none
      | c :: r =>
          if c = '"' then readStringLeaf r
          else if c = '-' then readNumberLeaf true r
          else if c.isDigit then readNumberLeaf false (c :: r)
          else if c = 'n' then readWord "null" .null (c :: r)
          else if c = 't' then readWord "true" (.bool true) (c :: r)
          else if c = 'f' then readWord "false" (.bool false) (c :: r)
          else if c = '[' then
            match skipSpace r with
            | ']' :: rest => some (.array [], rest)
            | _ => (readItems fuel r).map fun (items, rest) => (.array items, rest)
          else if c = '\x7b' then
            match skipSpace r with
            | '\x7d' :: rest => some (.object [], rest)
            | _ => (readFields fuel r).map fun (fields, rest) => (.object fields, rest)
          else none

def readItems : (fuel : Nat) → List Char → Option (List Tree × List Char)
  | 0, _ => none
  | fuel + 1, cs => do
      let (item, rest) ← readTree fuel cs
      match skipSpace rest with
      | ',' :: r => do
          let (items, rest) ← readItems fuel r
          return (item :: items, rest)
      | ']' :: r => return ([item], r)
      | _ => none

def readFields : (fuel : Nat) → List Char → Option (List (Option String × Tree) × List Char)
  | 0, _ => none
  | fuel + 1, cs =>
      match skipSpace cs with
      | '"' :: r => do
          let (name, rest) ← readString (some []) r
          match skipSpace rest with
          | ':' :: r => do
              let (field, rest) ← readTree fuel r
              match skipSpace rest with
              | ',' :: r => do
                  let (fields, rest) ← readFields fuel r
                  return ((name, field) :: fields, rest)
              | '\x7d' :: r => return ([(name, field)], r)
              | _ => none
          | _ => none
      | _ => none

end

/-- What a text writes, if it is well formed. -/
def Tree.parse? (s : String) : Option Tree :=
  let cs := s.toList
  match readTree (2 * cs.length + 2) cs with
  | some (tree, rest) => if (skipSpace rest).isEmpty then some tree else none
  | none => none

def parse? (s : String) : Option Json := (Tree.parse? s).bind (Tree.value? maxDepth)

end StartupGate.Json
