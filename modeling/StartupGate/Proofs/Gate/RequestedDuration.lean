/-
# StartupGate.Proofs.Gate.RequestedDuration -- which requests ask for a duration

The first pair with the key `duration` decides, whatever pairs follow: it asks for a number of seconds
if its value is a numeral, with at most one plus in front, of a number below `2 ^ 64` (`Gate.Asks`).

* `requestedDuration_eq_some_iff`: pairs are read so.
* `asks_decodePairs_iff`: a query decodes to such pairs exactly if it is spelled so (`Gate.Spelled`).
* `GateSession.answers_congr`: of two requests for one page that want leases of the same length, nobody
  can tell which was made.
* `requestedDuration_by_first_pair`: what asks for no duration is like a request for the default one.
-/
import StartupGate.Proofs.Gate.Decision
import StartupGate.Proofs.Number.Numeral
import StartupGate.Proofs.Text.Spelling

set_option autoImplicit false

namespace StartupGate

namespace Gate

open FormEncoded Integer

variable {params params' : List (String × String)} {query piece : List Char} {value : String}
  {n : Nat} {d : Duration} {r r' : Http.Request}

/-! ## The first pair with the key -/

/-- The pair with the key that comes before all others has a value. -/
def FirstValue (params : List (String × String)) (value : String) : Prop :=
  ∃ earlier later, params = earlier ++ (durationKey, value) :: later ∧
    ∀ pair ∈ earlier, pair.1 ≠ durationKey

/-- Pairs that ask for a number of seconds. -/
def Asks (params : List (String × String)) (n : Nat) : Prop :=
  ∃ value, FirstValue params value ∧ PlusNumeral value.toList n ∧ n < 2 ^ 64

theorem lookup_eq_some_iff : params.lookup durationKey = some value ↔ FirstValue params value := by
  simp only [List.lookup_eq_some_iff, FirstValue, bne_iff_ne, ne_comm]

/-- **What is read from pairs** is what they ask for. -/
theorem requestedDuration_eq_some_iff :
    requestedDuration params = some d ↔ ∃ n, Asks params n ∧ d = .ofSeconds n := by
  constructor
  · intro requested
    rw [requestedDuration] at requested
    split at requested
    · cases requested
    · next value first =>
        split at requested
        · next n read =>
            cases requested
            exact ⟨n, ⟨value, lookup_eq_some_iff.mp first, readUnsigned64_eq_ok_iff.mp read⟩, rfl⟩
        · cases requested
  · rintro ⟨n, ⟨value, first, numeral⟩, rfl⟩
    rw [requestedDuration, lookup_eq_some_iff.mpr first]
    simp only [readUnsigned64_eq_ok_iff.mpr numeral]

/-- Pairs that ask for nothing give no duration. -/
theorem requestedDuration_eq_none (nothing : ∀ n, ¬ Asks params n) :
    requestedDuration params = none := by
  rw [Option.eq_none_iff_forall_ne_some]
  intro d requested
  obtain ⟨n, asks, -⟩ := requestedDuration_eq_some_iff.mp requested
  exact nothing n asks

/-! ## Queries -/

/-- A piece of a query whose key is a spelling of the one that asks for a duration. -/
def Names (piece : List Char) : Prop := Spells (keyPart piece) durationKey.toList

/-- The piece of a query with such a key that comes before all others. -/
def FirstNamed (query piece : List Char) : Prop :=
  Names piece ∧ ∃ earlier later, query.splitOn '&' = earlier ++ piece :: later ∧
    ∀ piece' ∈ earlier, ¬ Names piece'

/-- A query as it is written asks for a number of seconds. -/
def Spelled (query : List Char) (n : Nat) : Prop :=
  ∃ piece digits, FirstNamed query piece ∧ Spells (valuePart piece) digits ∧
    PlusNumeral digits n ∧ n < 2 ^ 64

theorem decode_keyPart_eq_iff : decode (keyPart piece) = durationKey ↔ Names piece := by
  have key : String.ofList durationKey.toList = durationKey := String.ofList_toList
  have ascii : durationKey.toList.all (·.toNat < 0x80) = true := by decide
  rw [← key]
  exact decode_eq_ofList_iff (fun c member => of_decide_eq_true (List.all_eq_true.mp ascii c member))
    (by decide)

theorem plain_of_plusNumeral {cs : List Char} (numeral : PlusNumeral cs n) :
    (∀ c ∈ cs, c.toNat < 0x80) ∧ '%' ∉ cs := by
  have plain {digits : List Char} (numeral : Numeral digits n) :
      (∀ c ∈ digits, c.toNat < 0x80) ∧ '%' ∉ digits :=
    ⟨fun c member => (literal_of_isDigit (numeral.digits c member)).ascii, numeral.notMem rfl⟩
  rcases numeral with unsigned | ⟨digits, rfl, unsigned⟩
  · exact plain unsigned
  · obtain ⟨ascii, noPercent⟩ := plain unsigned
    refine ⟨List.forall_mem_cons.mpr ⟨by decide, ascii⟩, ?_⟩
    rw [List.mem_cons, not_or]
    exact ⟨by decide, noPercent⟩

/-- A part that is read as a numeral spells it. -/
theorem plusNumeral_decode_iff {raw : List Char} : PlusNumeral (decode raw).toList n ↔
    ∃ digits, Spells raw digits ∧ PlusNumeral digits n := by
  constructor
  · intro numeral
    obtain ⟨ascii, noPercent⟩ := plain_of_plusNumeral numeral
    refine ⟨_, (decode_eq_ofList_iff ascii noPercent).mp ?_, numeral⟩
    exact String.ofList_toList.symm
  · rintro ⟨digits, spells, numeral⟩
    obtain ⟨ascii, noPercent⟩ := plain_of_plusNumeral numeral
    rw [(decode_eq_ofList_iff ascii noPercent).mpr spells, String.toList_ofList]
    exact numeral

theorem firstValue_decodePairs_iff : FirstValue (decodePairs query) value ↔
    ∃ piece, FirstNamed query piece ∧ decode (valuePart piece) = value := by
  rw [← lookup_eq_some_iff, lookup_decodePairs (by decide), Option.map_eq_some_iff]
  simp only [List.find?_eq_some_iff_append, decide_eq_true_eq, Bool.not_eq_true',
    decide_eq_false_iff_not, decode_keyPart_eq_iff, FirstNamed]

/-- **A query decodes to pairs that ask for a duration** exactly if it is spelled so. -/
theorem asks_decodePairs_iff : Asks (decodePairs query) n ↔ Spelled query n := by
  constructor
  · rintro ⟨value, first, numeral, small⟩
    obtain ⟨piece, named, rfl⟩ := firstValue_decodePairs_iff.mp first
    obtain ⟨digits, spells, numeral'⟩ := plusNumeral_decode_iff.mp numeral
    exact ⟨piece, digits, named, spells, numeral', small⟩
  · rintro ⟨piece, digits, named, spells, numeral, small⟩
    exact ⟨_, firstValue_decodePairs_iff.mpr ⟨piece, named, rfl⟩,
      plusNumeral_decode_iff.mpr ⟨digits, spells, numeral⟩, small⟩

/-! ## The default duration -/

variable {g : Gate}

/-- The default duration is wanted by pairs without the key, and by those that name that many seconds. -/
def AsksDefault (g : Gate) (params : List (String × String)) : Prop :=
  (∀ pair ∈ params, pair.1 ≠ durationKey) ∨ ∃ n, Asks params n ∧ g.defaultDuration = .ofSeconds n

theorem leaseDuration_of_asksDefault (asks : g.AsksDefault params) :
    g.leaseDuration params = g.defaultDuration := by
  rcases asks with absent | ⟨n, asks, default⟩
  · have nothing : ∀ n, ¬ Asks params n := by
      rintro n ⟨value, ⟨earlier, later, rfl, -⟩, -⟩
      exact absent (durationKey, value) (by simp) rfl
    rw [leaseDuration, requestedDuration_eq_none nothing, Option.getD_none]
  · rw [leaseDuration, requestedDuration_eq_some_iff.mpr ⟨n, asks, rfl⟩, Option.getD_some, default]

/-! ## Requests that cannot be told apart -/

/-- Two requests for one page of one server. -/
def SamePage (r r' : Http.Request) : Prop :=
  r.method = r'.method ∧ (Http.Target.read r.target).path = (Http.Target.read r'.target).path

theorem call_congr (now : Instant) (same : g.leaseDuration params = g.leaseDuration params') :
    g.call now params = g.call now params' := by
  simp only [call, requestLease, same]

theorem canExpire_congr (now : Instant) (same : g.leaseDuration params = g.leaseDuration params') :
    g.canExpire now params = g.canExpire now params' := by
  simp only [canExpire, same]

theorem respond_congr (role : ServerRole) (now : Instant) (page : SamePage r r')
    (same : g.leaseDuration r.params = g.leaseDuration r'.params) :
    g.respond role now r = g.respond role now r' := by
  obtain ⟨method, path⟩ := page
  have shown (p : Page) : g.showPage role now p (Http.Target.read r.target).query =
      g.showPage role now p (Http.Target.read r'.target).query := by
    have called := call_congr now same
    rw [Http.Request.params, Http.Request.params] at called
    cases p <;> cases role <;> simp only [showPage, called]
  simp only [respond, path, method, shown]

end Gate

namespace GateSession

variable {s : GateSession} {r r' : Http.Request}

/-- **Two requests for one page that want leases of the same length** are answered alike, and so is
all that comes later. -/
theorem answers_congr (page : Gate.SamePage r r')
    (same : s.gate.leaseDuration r.params = s.gate.leaseDuration r'.params)
    (later : List GateEvent) :
    s.answers (.request r :: later) = s.answers (.request r' :: later) := by
  have stepped : s.step (.request r) = s.step (.request r') := by
    simp only [step, Gate.respond_congr s.role s.now page same]
  have shown : s.canStep (.request r) = s.canStep (.request r') := by
    simp only [canStep, Gate.leaseParams?, page.1, page.2]
    split_ifs
    · exact Gate.canExpire_congr s.now same
    · rfl
  have ran : s.run (.request r :: later) = s.run (.request r' :: later) := by
    simp only [run, stepped]
  have could : s.canRun (.request r :: later) = s.canRun (.request r' :: later) := by
    simp only [canRun, shown, stepped]
  rw [answers, answers, ran, could]

end GateSession

namespace Gate

/-- **Exactly well-formed durations are honoured.**  Take any raw query and the pairs that it decodes
to.  A duration is read from them if and only if the first pair with the key has for a value a numeral
below `2 ^ 64`, with at most one plus in front, and then it is that many seconds.  The raw queries of
which this holds are those whose first piece that spells the key spells such a numeral.  From any other
query nothing is read, and whatever happened to a server before and happens later, its answers are
those to a request for the same page that asks for the default duration. -/
theorem requestedDuration_by_first_pair (query : List Char) :
    let params := FormEncoded.decodePairs query
    (∀ d, requestedDuration params = some d ↔ ∃ n, Asks params n ∧ d = .ofSeconds n) ∧
      (∀ n, Asks params n ↔ Spelled query n) ∧
      ((∀ n, ¬ Asks params n) → requestedDuration params = none ∧
        ∀ (s : GateSession) (r r' : Http.Request), (Http.Target.read r.target).query = query →
          SamePage r r' → s.gate.AsksDefault r'.params →
          ∀ later, s.answers (.request r :: later) = s.answers (.request r' :: later)) := by
  intro params
  refine ⟨fun d => requestedDuration_eq_some_iff, fun n => asks_decodePairs_iff, fun nothing => ?_⟩
  have unread : requestedDuration params = none := requestedDuration_eq_none nothing
  refine ⟨unread, ?_⟩
  rintro s r r' rfl page default later
  refine GateSession.answers_congr page ?_ later
  have fallsBack : s.gate.leaseDuration r.params = s.gate.defaultDuration := by
    show (requestedDuration params).getD _ = _
    rw [unread, Option.getD_none]
  rw [fallsBack, leaseDuration_of_asksDefault default]

/-- An escape may spell a letter of the key and the plus of the value.  An empty value hides a later one,
and the gate goes on as after a request for its default of a minute. -/
theorem requestedDuration_by_first_pair_escaped :
    let s : GateSession := ⟨.gate, .new 1 (.ofSeconds 60) [], 0⟩
    let later : List GateEvent := [.advance (.ofSeconds 59), .request ⟨"GET", "/metrics"⟩]
    Spelled "x=1&d%75ration=%2B007&duration=9".toList 7 ∧
      requestedDuration (FormEncoded.decodePairs "duration=&duration=5".toList) = none ∧
      s.answers (.request ⟨"GET", "/?duration=&duration=5"⟩ :: later) =
        s.answers (.request ⟨"GET", "/?duration=%360"⟩ :: later) := by
  intro s later
  obtain ⟨read, spelled, -⟩ :=
    requestedDuration_by_first_pair "x=1&d%75ration=%2B007&duration=9".toList
  obtain ⟨n, asks, same⟩ := (read (.ofSeconds 7)).mp (by decide +kernel)
  have seven : n = 7 := by
    have nanos := congrArg Duration.nanos same
    simp only [Duration.ofSeconds, Duration.nanosPerSecond] at nanos
    omega
  obtain ⟨read', -, others⟩ := requestedDuration_by_first_pair "duration=&duration=5".toList
  obtain ⟨sixty, -, -⟩ := requestedDuration_by_first_pair "duration=%360".toList
  have nothing : ∀ n, ¬ Asks (FormEncoded.decodePairs "duration=&duration=5".toList) n := by
    intro n asks
    have some' := (read' (.ofSeconds n)).mpr ⟨n, asks, rfl⟩
    have none' : requestedDuration (FormEncoded.decodePairs "duration=&duration=5".toList) = none := by
      decide +kernel
    rw [none'] at some'
    cases some'
  obtain ⟨unread, alike⟩ := others nothing
  refine ⟨(spelled 7).mp (seven ▸ asks), unread, ?_⟩
  refine alike s ⟨"GET", "/?duration=&duration=5"⟩ ⟨"GET", "/?duration=%360"⟩ ?_ ?_ ?_ later
  · decide +kernel
  · exact ⟨rfl, by decide +kernel⟩
  · obtain ⟨n, asks', same'⟩ := (sixty s.gate.defaultDuration).mp (by decide +kernel)
    have target : (Http.Target.read "/?duration=%360").query = "duration=%360".toList := by
      decide +kernel
    refine .inr ⟨n, ?_, same'⟩
    rw [Http.Request.params, target]
    exact asks'

end Gate

end StartupGate
