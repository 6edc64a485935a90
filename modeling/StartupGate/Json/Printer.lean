/-
# StartupGate.Json.Printer -- writing JSON text

The compact form: no blanks, fields in their order, and in strings only quotes,
backslashes and control characters escaped.
-/
import StartupGate.Json.Value
import StartupGate.Number.Shortest
import StartupGate.Text.Quoted

set_option autoImplicit false

namespace StartupGate.Json

/-- The written form of a character in a string. -/
def escapeChar (c : Char) : List Char :=
  if c = '"' ∨ c = '\\' then ['\\', c]
  else if c = '\n' then ['\\', 'n']
  else if c = '\r' then ['\\', 'r']
  else if c = '\t' then ['\\', 't']
  else if c = '\x08' then ['\\', 'b']
  else if c = '\x0c' then ['\\', 'f']
  else if c.toNat < 0x20 then
    ['\\', 'u', '0', '0', Nat.digitChar (c.toNat / 16), Nat.digitChar (c.toNat % 16)]
  else [c]

def stringText (s : String) : String :=
  String.ofList ('"' :: s.toList.flatMap escapeChar ++ ['"'])

mutual

def text : Json → String
  | .null => "null"
  | .bool true => "true"
  | .bool false => "false"
  | .integer n => Integer.signedText n
  | .double x => Shortest.jsonText x
  | .string s => stringText s
  | .array items => "[" ++ itemsText items ++ "]"
  | .object fields => "\x7b" ++ fieldsText fields ++ "\x7d"

def itemsText : List Json → String
  | [] => ""
  | [item] => text item
  | item :: rest => text item ++ "," ++ itemsText rest

def fieldsText : List (String × Json) → String
  | [] => ""
  | [(name, value)] => stringText name ++ ":" ++ text value
  | (name, value) :: rest => stringText name ++ ":" ++ text value ++ "," ++ fieldsText rest

end

end StartupGate.Json
