/-
# StartupGate.Text.Quoted -- a text between quotes, with everything invisible escaped

The quoted form of a text for a message: quotes around it, a backslash before a quote
or a backslash, the usual letters for tab, line feed, carriage return and null, and the
hexadecimal code point for any other character that does not show as itself.
-/
import StartupGate.Text.Printable

set_option autoImplicit false

namespace StartupGate.Text

/-- The lower-case hexadecimal digits of a number, most significant first. -/
def hexDigits (n : Nat) : List Char :=
  let digit := Nat.digitChar (n % 16)
  if n < 16 then [digit] else hexDigits (n / 16) ++ [digit]
termination_by n
decreasing_by omega

def quoteChar (c : Char) : List Char :=
  if c = '"' ∨ c = '\\' then ['\\', c]
  else if c = '\n' then ['\\', 'n']
  else if c = '\r' then ['\\', 'r']
  else if c = '\t' then ['\\', 't']
  else if c.toNat = 0 then ['\\', '0']
  else if isPrintable c then [c]
  else ['\\', 'u', '\x7b'] ++ hexDigits c.toNat ++ ['\x7d']

def quoted (cs : List Char) : List Char := '"' :: cs.flatMap quoteChar ++ ['"']

def quotedText (s : String) : String := String.ofList (quoted s.toList)

end StartupGate.Text
