/-
# StartupGate.Settings.Value -- the kinds of values a setting takes

A setting takes a text, a number up to a limit, a truth value, or a list of endpoints
or of label pairs.  `Kind.read` reads one written value; a list setting is written as
pieces between commas, each of which is one value (`Kind.pieces`).
-/
import StartupGate.Endpoint
import StartupGate.Labels

set_option autoImplicit false

namespace StartupGate.Settings

inductive Kind where
  | text
  /-- A number up to a limit below 64 bits.  It may be written with either sign. -/
  | ranged (limit : Nat)
  /-- An unsigned 64-bit number, written without a minus. -/
  | count
  | truth
  | endpoints
  | labels
  deriving DecidableEq, Repr

inductive Value where
  | text (value : String)
  | number (value : Nat)
  | truth (value : Bool)
  | endpoint (value : Endpoint)
  | label (key value : String)
  deriving DecidableEq, Repr

inductive ValueError where
  | integer (cause : IntegerError)
  | outside (value : Int) (limit : Nat)
  | endpoint (cause : EndpointError)
  | label (cause : LabelPairError)
  /-- A truth value other than the two words for one. -/
  | notTruth
  deriving DecidableEq, Repr

/-- The message of a refusal; the words for truth values are listed elsewhere, so their refusal
has none. -/
def ValueError.message? : ValueError → Option String
  | .integer cause => some cause.message
  | .outside value limit =>
      some (Integer.signedText value ++ " is not in 0..=" ++ Integer.toText limit)
  | .endpoint cause => some cause.message
  | .label cause => some cause.message
  | .notTruth => none

namespace Kind

/-- A list setting may be given several times and several values at once. -/
def isList : Kind → Bool
  | .endpoints | .labels => true
  | _ => false

/-- The separately written values of one occurrence. -/
def pieces (k : Kind) (raw : String) : List String :=
  if k.isList then (Text.splitAll ',' raw.toList).map String.ofList else [raw]

def maxSigned64 : Nat := Nat.pow 2 63 - 1

def read (k : Kind) (raw : String) : Except ValueError Value :=
  match k with
  | .text => .ok (.text raw)
  | .ranged limit =>
      match Integer.readSigned maxSigned64 raw.toList with
      | .error cause => .error (.integer cause)
      | .ok n =>
          if 0 ≤ n ∧ n ≤ limit then .ok (.number n.toNat) else .error (.outside n limit)
  | .count =>
      match Integer.readUnsigned Integer.maxUnsigned64 raw.toList with
      | .error cause => .error (.integer cause)
      | .ok n => .ok (.number n)
  | .truth =>
      if raw = "true" then .ok (.truth true)
      else if raw = "false" then .ok (.truth false)
      else .error .notTruth
  | .endpoints =>
      match Endpoint.read raw with
      | .error cause => .error (.endpoint cause)
      | .ok e => .ok (.endpoint e)
  | .labels =>
      match Labels.readPair raw with
      | .error cause => .error (.label cause)
      | .ok (key, value) => .ok (.label key value)

/-- Reads pieces in order, failing at the first that is refused with that piece. -/
def readPieces (k : Kind) : List String → Except (String × ValueError) (List Value)
  | [] => .ok []
  | piece :: rest =>
      match k.read piece with
      | .error cause => .error (piece, cause)
      | .ok value =>
          match readPieces k rest with
          | .error e => .error e
          | .ok values => .ok (value :: values)

def readAll (k : Kind) (raw : String) : Except (String × ValueError) (List Value) :=
  k.readPieces (k.pieces raw)

end Kind

end StartupGate.Settings
