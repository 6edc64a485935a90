/-
# StartupGate.Text.Utf8 -- text as bytes

`encode` writes each character as one to four bytes.  `decode` reads any bytes: where
they are no valid sequence it gives U+FFFD once for each longest beginning of a valid
sequence, or for one byte if there is none, so decoding never fails.
-/

set_option autoImplicit false

namespace StartupGate.Utf8

def encodeChar (c : Char) : List UInt8 :=
  let n := c.toNat
  if n < 0x80 then [UInt8.ofNat n]
  else if n < 0x800 then [UInt8.ofNat (0xc0 + n / 0x40), UInt8.ofNat (0x80 + n % 0x40)]
  else if n < 0x10000 then
    [UInt8.ofNat (0xe0 + n / 0x1000), UInt8.ofNat (0x80 + n / 0x40 % 0x40),
      UInt8.ofNat (0x80 + n % 0x40)]
  else
    [UInt8.ofNat (0xf0 + n / 0x40000), UInt8.ofNat (0x80 + n / 0x1000 % 0x40),
      UInt8.ofNat (0x80 + n / 0x40 % 0x40), UInt8.ofNat (0x80 + n % 0x40)]

def encode (cs : List Char) : List UInt8 := cs.flatMap encodeChar

/-- What stands for bytes that are no character. -/
def replacement : Char := Char.ofNat 0xfffd

/-- The shape of a sequence by its first byte: how many more bytes it has, the bits the first
byte gives, and the range of the second byte. -/
def leadByte (b : Nat) : Option (Nat × Nat × Nat × Nat) :=
  if b < 0x80 then some (0, b, 0, 0)
  else if b < 0xc2 then none
  else if b < 0xe0 then some (1, b - 0xc0, 0x80, 0xbf)
  else if b = 0xe0 then some (2, 0, 0xa0, 0xbf)
  else if b = 0xed then some (2, 0xd, 0x80, 0x9f)
  else if b < 0xf0 then some (2, b - 0xe0, 0x80, 0xbf)
  else if b = 0xf0 then some (3, 0, 0x90, 0xbf)
  else if b < 0xf4 then some (3, b - 0xf0, 0x80, 0xbf)
  else if b = 0xf4 then some (3, 4, 0x80, 0x8f)
  else none

/-- Reads `more` further bytes onto `acc`, the first of them in `low .. high`; gives the code point,
if all are there, and how many bytes were used. -/
def readRest : (more acc low high : Nat) → List UInt8 → Option Nat × Nat
  | 0, acc, _, _, _ => (some acc, 0)
  | _ + 1, _, _, _, [] => (none, 0)
  | more + 1, acc, low, high, b :: r =>
      if low ≤ b.toNat ∧ b.toNat ≤ high then
        let (code, used) := readRest more (acc * 0x40 + b.toNat % 0x40) 0x80 0xbf r
        (code, used + 1)
      else (none, 0)

def decode : List UInt8 → List Char
  | [] => []
  | b :: r =>
      match leadByte b.toNat with
      | none => replacement :: decode r
      | some (more, acc, low, high) =>
          let (code, used) := readRest more acc low high r
          (match code with | some n => Char.ofNat n | none => replacement) :: decode (r.drop used)
termination_by bytes => bytes.length
decreasing_by all_goals (simp only [List.length_cons, List.length_drop]; omega)

end StartupGate.Utf8
