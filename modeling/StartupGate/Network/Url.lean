/-
# StartupGate.Network.Url -- which HTTP URLs can be opened

`Url.isOpenable` decides whether a text beginning with `http:` or `https:` has a usable
host and port; the path, the query and the fragment can be anything.  The host is a name,
an IPv4 address in any of its written forms, or an IPv6 address in brackets.
-/
import StartupGate.Network.HostName.Name
import StartupGate.Number.Integer
import StartupGate.Text.FormEncoded

set_option autoImplicit false

namespace StartupGate.Url

/-! ## Addresses -/

def isHex (c : Char) : Bool :=
  c.isDigit || ('a' ≤ c && c ≤ 'f') || ('A' ≤ c && c ≤ 'F')

/-- A number of an address below 256, in decimal without leading zeros. -/
def isPlainByte (cs : List Char) : Bool :=
  cs ≠ [] && cs.all Char.isDigit && cs.length ≤ 3 && (cs.length = 1 || cs.head? ≠ some '0') &&
    Decimal.ofDigits cs < 256

def isDottedQuad (cs : List Char) : Bool :=
  let parts := Text.splitAll '.' cs
  parts.length = 4 && parts.all isPlainByte

/-- How many 16-bit groups a part of an IPv6 address holds: one for hexadecimal digits, two for an
IPv4 address, which only the last part may be. -/
def groupCount? (isLast : Bool) (cs : List Char) : Option Nat :=
  if cs ≠ [] ∧ cs.length ≤ 4 ∧ cs.all isHex then some 1
  else if isLast ∧ isDottedQuad cs then some 2
  else none

/-- The groups of a colon-separated list of parts. -/
def groupsOf? (isEnd : Bool) (cs : List Char) : Option Nat :=
  if cs = [] then some 0
  else
    let parts := Text.splitAll ':' cs
    (parts.zipIdx.mapM fun (part, i) => groupCount? (isEnd && i + 1 = parts.length) part).map
      fun (counts : List Nat) => counts.foldl (· + ·) 0

/-- An IPv6 address: eight groups, or fewer around one double colon. -/
def isIpv6 (cs : List Char) : Bool :=
  match Text.splitFirstText [':', ':'] cs with
  | none => groupsOf? true cs = some 8
  | some (before, after) =>
      match groupsOf? false before, groupsOf? true after with
      | some a, some b => a + b < 8
      | _, _ => false

/-- The value of a number of an IPv4 address: hexadecimal behind `0x`, octal behind `0`. -/
def ipv4Number? : List Char → Option Nat
  | [] => none
  | '0' :: x :: r =>
      if x = 'x' ∨ x = 'X' then
        if r.all isHex then
          some (r.foldl (fun n c => n * 16 + ((FormEncoded.hexValue? (UInt8.ofNat c.toNat)).getD 0)) 0)
        else none
      else if (x :: r).all fun c => '0' ≤ c && c ≤ '7' then
        some ((x :: r).foldl (fun n c => n * 8 + Decimal.digitValue c) 0)
      else none
  | cs => if cs.all Char.isDigit then some (Decimal.ofDigits cs) else none

/-- The labels of a host name, without an empty one at the end. -/
def hostLabels (cs : List Char) : List (List Char) :=
  let labels := Text.splitAll '.' cs
  if 1 < labels.length ∧ labels.getLast? = some [] then labels.dropLast else labels

/-- The last label is a number, so the host has to be an IPv4 address. -/
def endsInNumber (cs : List Char) : Bool :=
  match (hostLabels cs).getLast? with
  | none => false
  | some last => (last ≠ [] && last.all Char.isDigit) || (ipv4Number? last).isSome

/-- An IPv4 address of one to four numbers, the last of which fills the rest of the address. -/
def isIpv4 (cs : List Char) : Bool :=
  let labels := hostLabels cs
  match labels.mapM ipv4Number? with
  | none => false
  | some numbers =>
      numbers.length ≤ 4 && numbers.dropLast.all (· < 256) &&
        numbers.getLast?.getD 0 < Nat.pow 256 (5 - numbers.length)

/-- An IPv4 address as system calls read it: every number has a digit, and nothing follows. -/
def isLooseIpv4 (cs : List Char) : Bool :=
  let labels := Text.splitAll '.' cs
  labels.all (fun label => label ≠ [] && label ≠ ['0', 'x'] && label ≠ ['0', 'X']) && isIpv4 cs

/-! ## Hosts and ports -/

def isForbidden (c : Char) : Bool :=
  c.toNat ≤ 0x20 || c.toNat = 0x7f || "\"#%/:<>?@[\\]^`\x7b|\x7d".toList.contains c

/-- Percent escapes replaced by what they stand for; a plus stays. -/
def unescapeHost (cs : List Char) : List Char :=
  Utf8.decode (FormEncoded.unescape (Utf8.encode (cs.flatMap fun c =>
    if c = '+' then ['%', '2', 'B'] else [c])))

/-- A host that can be looked up. -/
def isHost (cs : List Char) : Bool :=
  match cs with
  | [] => false
  | '[' :: rest => rest.getLast? = some ']' && isIpv6 rest.dropLast
  | _ =>
      match HostName.read? (unescapeHost cs) with
      | none => false
      | some name => name ≠ [] && !name.any isForbidden && (!endsInNumber name || isIpv4 name)

/-- Nothing, or a decimal number below 65536. -/
def isPort (cs : List Char) : Bool :=
  cs.all Char.isDigit && Decimal.ofDigits cs ≤ Integer.maxUnsigned16

/-- A host and, behind a colon outside brackets, a port. -/
def splitPort : (inBrackets : Bool) → List Char → List Char × Option (List Char)
  | _, [] => ([], none)
  | inBrackets, c :: r =>
      if c = ':' ∧ !inBrackets then ([], some r)
      else
        let (host, port) := splitPort (if c = '[' then true else if c = ']' then false else inBrackets) r
        (c :: host, port)

/-! ## URLs -/

/-- The text without the characters that are ignored: controls and blanks at both ends, tabs and
line ends anywhere. -/
def cleaned (cs : List Char) : List Char :=
  let atEnd (c : Char) : Bool := c.toNat ≤ 0x20
  let trimmed := ((cs.dropWhile atEnd).reverse.dropWhile atEnd).reverse
  trimmed.filter fun c => c ≠ '\t' && c ≠ '\n' && c ≠ '\r'

/-- The URL has a host to connect to and a port that exists. -/
def isOpenable (url : String) : Bool :=
  match Text.splitFirst ':' (cleaned url.toList) with
  | none => false
  | some (_, rest) =>
      let behind := rest.dropWhile fun c => c = '/' || c = '\\'
      let authority := behind.takeWhile fun c => c ≠ '/' && c ≠ '\\' && c ≠ '?' && c ≠ '#'
      let hostPort := match Text.splitLast '@' authority with
        | some (_, after) => after
        | none => authority
      let (host, port) := splitPort false hostPort
      isHost host && isPort (port.getD [])

end StartupGate.Url
