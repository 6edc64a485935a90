/-
# StartupGate.Text.FormEncoded -- the form encoding of key and value pairs

The form `key=value&key=value`, in which a space is written `+` and any other byte
beyond letters, digits and `*-._` is written `%` with two hexadecimal digits.

* `encode` writes one key or value.
* `decodePairs` reads a whole query.  Empty pieces are skipped, a piece without `=` is
  a key with the empty value, a `%` that two hexadecimal digits do not follow stands for
  itself, and bytes that are no text become U+FFFD, so every query can be read.
-/
import StartupGate.Text.Split
import StartupGate.Text.Utf8

set_option autoImplicit false

namespace StartupGate.FormEncoded

/-! ## Writing -/

/-- The characters that are written as they are. -/
def isPlain (c : Char) : Bool :=
  c.isAlphanum || c = '*' || c = '-' || c = '.' || c = '_'

def hexDigit (n : Nat) : Char :=
  if n < 10 then Char.ofNat ('0'.toNat + n) else Char.ofNat ('A'.toNat + (n - 10))

/-- A percent sign and the two hexadecimal digits of a byte. -/
def escapeByte (b : UInt8) : List Char :=
  ['%', hexDigit (b.toNat / 16), hexDigit (b.toNat % 16)]

def encodeChar (c : Char) : List Char :=
  if c = ' ' then ['+']
  else if isPlain c then [c]
  else (Utf8.encodeChar c).flatMap escapeByte

def encode (cs : List Char) : List Char := cs.flatMap encodeChar

/-! ## Reading -/

def hexValue? (b : UInt8) : Option Nat :=
  let n := b.toNat
  if 0x30 ≤ n ∧ n ≤ 0x39 then some (n - 0x30)
  else if 0x41 ≤ n ∧ n ≤ 0x46 then some (n - 0x41 + 10)
  else if 0x61 ≤ n ∧ n ≤ 0x66 then some (n - 0x61 + 10)
  else none

def hexPair? (high low : UInt8) : Option UInt8 :=
  match hexValue? high, hexValue? low with
  | some h, some l => some (UInt8.ofNat (h * 16 + l))
  | _, _ => none

/-- Replaces each `+` by a space and each well-formed escape by its byte. -/
def unescape : List UInt8 → List UInt8
  | [] => []
  | b :: high :: low :: r =>
      if b = 0x25 then
        match hexPair? high low with
        | some byte => byte :: unescape r
        | none => b :: unescape (high :: low :: r)
      else (if b = 0x2b then 0x20 else b) :: unescape (high :: low :: r)
  | b :: r => (if b = 0x2b then 0x20 else b) :: unescape r

def decode (cs : List Char) : String := String.ofList (Utf8.decode (unescape (Utf8.encode cs)))

def decodePair (piece : List Char) : String × String :=
  match Text.splitFirst '=' piece with
  | some (key, value) => (decode key, decode value)
  | none => (decode piece, "")

def decodePairs (query : List Char) : List (String × String) :=
  ((Text.splitAll '&' query).filter (· ≠ [])).map decodePair

end StartupGate.FormEncoded
