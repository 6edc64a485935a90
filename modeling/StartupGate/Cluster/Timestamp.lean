/-
# StartupGate.Cluster.Timestamp -- instants written in cluster objects

An instant is a date, a `T` or a blank, a time and an offset: `2024-05-01T10:00:00Z`.
The form is lenient: numbers may lack leading zeros, blanks may stand around the marks
between them, the year may have a sign, the second a fraction, and the offset is `Z`,
`UTC` or a sign with hours and minutes.  The date must exist; a second of 60 counts as a
leap second on any day.
-/
import StartupGate.Number.Integer
import StartupGate.Text.Blank

set_option autoImplicit false

namespace StartupGate.Cluster.Timestamp

/-! ## Numbers and marks -/

def skipBlanks (cs : List Char) : List Char := cs.dropWhile Text.isBlank

/-- Reads one to `places` digits. -/
def readDigits (places : Nat) (cs : List Char) : Option (Nat × List Char) :=
  let digits := (cs.takeWhile Char.isDigit).take places
  if digits = [] then none else some (Decimal.ofDigits digits, cs.drop digits.length)

/-- Reads one or two digits behind blanks. -/
def readNumber (cs : List Char) : Option (Nat × List Char) := readDigits 2 (skipBlanks cs)

/-- Reads a mark behind blanks. -/
def readMark (mark : Char) (cs : List Char) : Option (List Char) :=
  match skipBlanks cs with
  | [] => none
  | c :: r => if c = mark then some r else none

/-- Reads a year: up to four digits, or any number of them behind a sign. -/
def readYear (cs : List Char) : Option (Int × List Char) :=
  match skipBlanks cs with
  | '-' :: r => (readDigits r.length r).map fun (n, rest) => (-(n : Int), rest)
  | '+' :: r => (readDigits r.length r).map fun (n, rest) => ((n : Int), rest)
  | r => (readDigits 4 r).map fun (n, rest) => ((n : Int), rest)

/-! ## Dates -/

/-- Every fourth year, but of the full centuries only every fourth. -/
def isLeapYear (year : Int) : Bool := year % 4 = 0 && (year % 100 ≠ 0 || year % 400 = 0)

def daysIn (year : Int) (month : Nat) : Nat :=
  if month = 2 then (if isLeapYear year then 29 else 28)
  else if month = 4 ∨ month = 6 ∨ month = 9 ∨ month = 11 then 30
  else 31

def firstYear : Int := -262143

def lastYear : Int := 262142

def isDate (year : Int) (month day : Nat) : Bool :=
  firstYear ≤ year && year ≤ lastYear && 1 ≤ month && month ≤ 12 && 1 ≤ day &&
    day ≤ daysIn year month

def readDate (cs : List Char) : Option (List Char) := do
  let (year, rest) ← readYear cs
  let (month, rest) ← readNumber (← readMark '-' rest)
  let (day, rest) ← readNumber (← readMark '-' rest)
  guard (isDate year month day)
  return rest

/-! ## Times and offsets -/

/-- Skips the fraction of a second, if there is one. -/
def skipFraction : List Char → Option (List Char)
  | '.' :: r => if (r.takeWhile Char.isDigit) = [] then none else some (r.dropWhile Char.isDigit)
  | cs => some cs

def readTime (cs : List Char) : Option (List Char) := do
  let (hour, rest) ← readNumber cs
  let (minute, rest) ← readNumber (← readMark ':' rest)
  let (second, rest) ← readNumber (← readMark ':' rest)
  guard (hour ≤ 23 ∧ minute ≤ 59 ∧ second ≤ 60)
  skipFraction rest

/-- Reads two digits with a value of at most `limit`. -/
def readPair (limit : Nat) : List Char → Option (List Char)
  | a :: b :: r =>
      if a.isDigit ∧ b.isDigit ∧ Decimal.ofDigits [a, b] ≤ limit then some r else none
  | _ => none

/-- Reads the hours and minutes of an offset, with any colons and blanks between them. -/
def readOffsetSize (cs : List Char) : Option (List Char) := do
  let rest ← readPair 23 cs
  readPair 59 (rest.dropWhile fun c => c = ':' || Text.isBlank c)

def readOffset (cs : List Char) : Option (List Char) :=
  if String.ofList ((cs.take 3).map Char.toLower) = "utc" then some (cs.drop 3)
  else match cs with
    | [] => none
    | c :: r =>
        if c = 'Z' ∨ c = 'z' then some r
        else if c = '+' ∨ c = '-' ∨ c = '−' then readOffsetSize r
        else none

/-- Reads the mark between a date and a time. -/
def readSeparator : List Char → Option (List Char)
  | c :: r => if c = 't' ∨ c = 'T' ∨ c = ' ' then some r else none
  | [] => none

def isTimestamp (s : String) : Bool :=
  let rest? : Option (List Char) := do
    let time ← readSeparator (← readDate s.toList)
    readOffset (skipBlanks (← readTime time))
  match rest? with
  | some rest => (skipBlanks rest).isEmpty
  | none => false

end StartupGate.Cluster.Timestamp
