/-
# StartupGate.Network.HostName.Name -- host names as they are looked up

`HostName.read?` gives the form of a host name that is looked up: its characters replaced
and composed.  The labels between the points must make sense: one written in Punycode
stands for a label that is not plain and is in its final form already, none begins with a
mark, joiners stand where they may, and if any label is read from right to left, every
label is read in one direction.
-/
import StartupGate.Network.HostName.Punycode
import StartupGate.Network.HostName.Replacement
import StartupGate.Text.Direction
import StartupGate.Text.Joining

set_option autoImplicit false

namespace StartupGate.HostName

open Text (tableRanges)

/-- The marks, which no label begins with. -/
def leadingMarks : Array (Nat × Nat) :=
  tableRanges
    ["300-36f 483-489 591-5bd 5bf 5c1-5c2 5c4-5c5 5c7 610-61a 64b-65f 670 6d6-6dc 6df-6e4 6e7-6e8",
    "6ea-6ed 711 730-74a 7a6-7b0 7eb-7f3 7fd 816-819 81b-823 825-827 829-82d 859-85b 897-89f",
    "8ca-903 93a-93c 93e-94f 951-957 962-963 981-983 9bc 9be-9cd 9d7 9e2-9e3 9fe-a03 a3c-a51",
    "a70-a71 a75 a81-a83 abc abe-acd ae2-ae3 afa-b03 b3c b3e-b57 b62-b63 b82 bbe-bcd bd7 c00-c04",
    "c3c c3e-c56 c62-c63 c81-c83 cbc cbe-cd6 ce2-ce3 cf3-d03 d3b-d3c d3e-d4d d57 d62-d63 d81-d83",
    "dca-ddf df2-df3 e31 e34-e3a e47-e4e eb1 eb4-ebc ec8-ece f18-f19 f35 f37 f39 f3e-f3f f71-f84",
    "f86-f87 f8d-fbc fc6 102b-103e 1056-1059 105e-1060 1062-1064 1067-106d 1071-1074 1082-108d",
    "108f 109a-109d 135d-135f 1712-1715 1732-1734 1752-1753 1772-1773 17b6-17d3 17dd 1885-1886",
    "18a9 1920-193b 1a17-1a1b 1a55-1a7f 1ab0-1b04 1b34-1b44 1b6b-1b73 1b80-1b82 1ba1-1bad",
    "1be6-1bf3 1c24-1c37 1cd0-1cd2 1cd4-1ce8 1ced 1cf4 1cf7-1cf9 1dc0-1dff 20d0-20f0 2cef-2cf1",
    "2d7f 2de0-2dff 302a-302f 3099-309a a66f-a672 a674-a67d a69e-a69f a6f0-a6f1 a802 a806 a80b",
    "a823-a827 a82c a880-a881 a8b4-a8c5 a8e0-a8f1 a8ff a926-a92d a947-a953 a980-a983 a9b3-a9c0",
    "a9e5 aa29-aa36 aa43 aa4c-aa4d aa7b-aa7d aab0 aab2-aab4 aab7-aab8 aabe-aabf aac1 aaeb-aaef",
    "aaf5-aaf6 abe3-abea abec-abed fb1e fe20-fe2f 101fd 102e0 10376-1037a 10a01-10a0f 10a38-10a3f",
    "10ae5-10ae6 10d24-10d27 10d69-10d6d 10eab-10eac 10efa-10eff 10f46-10f50 10f82-10f85",
    "11000-11002 11038-11046 11070 11073-11074 1107f-11082 110b0-110ba 110c2 11100-11102",
    "11127-11134 11145-11146 11173 11180-11182 111b3-111c0 111c9-111cc 111ce-111cf 1122c-11237",
    "1123e 11241 112df-112ea 11300-11303 1133b-1133c 1133e-1134d 11357 11362-11374 113b8-113d0",
    "113d2 113e1-113e2 11435-11446 1145e 114b0-114c3 115af-115c0 115dc-115dd 11630-11640",
    "116ab-116b7 1171d-1172b 1182c-1183a 11930-1193e 11940 11942-11943 119d1-119e0 119e4",
    "11a01-11a0a 11a33-11a39 11a3b-11a3e 11a47 11a51-11a5b 11a8a-11a99 11b60-11b67 11c2f-11c3f",
    "11c92-11cb6 11d31-11d45 11d47 11d8a-11d97 11ef3-11ef6 11f00-11f01 11f03 11f34-11f42 11f5a",
    "13440 13447-13455 1611e-1612f 16af0-16af4 16b30-16b36 16f4f 16f51-16f92 16fe4-16ff1",
    "1bc9d-1bc9e 1cf00-1cf46 1d165-1d169 1d16d-1d182 1d185-1d18b 1d1aa-1d1ad 1d242-1d244",
    "1da00-1da36 1da3b-1da6c 1da75 1da84 1da9b-1daaf 1e000-1e08f 1e130-1e136 1e2ae 1e2ec-1e2ef",
    "1e4ec-1e4ef 1e5ee-1e5ef 1e6e3 1e6e6 1e6ee-1e6ef 1e6f5 1e8d0-1e8d6 1e944-1e94a"]

/-- What marks a label as written in Punycode. -/
def punycodeStart : List Char := ['x', 'n', '-', '-']

/-- A text in its final form. -/
def normal? (ns : List Nat) : Option (List Nat) :=
  (ns.mapM replace?).map fun texts => Text.composed texts.flatten

/-- A label that Punycode may stand for: not plain, and in its final form. -/
def isEncodable (label : List Nat) : Bool :=
  label.any (0x80 ≤ ·) && label.all (fun n => replace? n == some [n]) &&
    Text.composed label == label && (label.map Char.ofNat).take 4 != punycodeStart

/-- The label that a written label stands for. -/
def decodeLabel? (label : List Char) : Option (List Nat) :=
  match Text.afterStart punycodeStart label with
  | none => some (label.map Char.toNat)
  | some code => do
      let decoded ← Punycode.decode? code
      if isEncodable decoded then return decoded else none

/-- A label makes sense by itself. -/
def isSound (label : List Nat) : Bool :=
  match label with
  | [] => true
  | n :: _ => !Text.isIn leadingMarks n && Text.hasFitJoiners [] label

/-- Labels can stand side by side. -/
def areReadable (labels : List (List Nat)) : Bool :=
  !labels.any (·.any Text.isRightToLeft) || labels.all fun label => label = [] || Text.isOneWay label

/-- The form of a host name that is looked up, if its labels make sense. -/
def read? (name : List Char) : Option (List Char) := do
  let written := (← normal? (name.map Char.toNat)).map Char.ofNat
  let labels ← (Text.splitAll '.' written).mapM decodeLabel?
  guard (labels.all isSound && areReadable labels)
  return written

end StartupGate.HostName
