/-
# StartupGate.Proofs.Endpoint.Grammar -- the texts that are endpoints, and why others are not

An address is a host and a port with the last colon of the text between them (`Endpoint.IsAddress`): the
host may have colons of its own, the port is a numeral.  A text is cut at the first `://` it has, and what
stands in front decides what becomes of it (`Endpoint.read_by_grammar`).  The causes have an order: a
scheme that is no word comes before an unknown transport, and that before a bad address.

* `readAddress_eq_ok_iff`, `readAddress_eq_error`: addresses are read and nothing else is.
* `read_of_scheme`: what is left to read behind a scheme that is a word.
-/
import StartupGate.Proofs.Endpoint
import StartupGate.Proofs.Number.Numeral
import StartupGate.Proofs.Text.Blank

set_option autoImplicit false

namespace StartupGate

/-- A scheme that is the name of no transport names none. -/
theorem Transport.read_eq_error {scheme : String} (unknown : ∀ t : Transport, scheme ≠ t.name) :
    read scheme = .error (.unsupportedProtocol scheme) := by
  have tcp := unknown .tcp
  have tcp4 := unknown .tcp4
  have tcp6 := unknown .tcp6
  have udp := unknown .udp
  have udp4 := unknown .udp4
  have udp6 := unknown .udp6
  simp only [name] at tcp tcp4 tcp6 udp udp4 udp6
  simp only [read, tcp, tcp4, tcp6, udp, udp4, udp6, if_false]

namespace Endpoint

open Text

variable {s host scheme rest : String} {port : Nat} {cs : List Char}

/-! ## Addresses -/

/-- A host, which is a word, and a port below `2 ^ 16`, with the last colon between them. -/
def IsAddress (cs : List Char) (host : String) (port : Nat) : Prop :=
  ∃ digits, cs = host.toList ++ ':' :: digits ∧ ':' ∉ digits ∧ IsWord host.toList ∧
    Integer.Numeral digits port ∧ port ≤ 65535

theorem readPort?_eq_some_iff : readPort? cs = some port ↔ Integer.Numeral cs port ∧ port ≤ 65535 := by
  have most : Integer.maxUnsigned16 = 65535 := rfl
  rw [readPort?, Integer.numeral_iff, most]
  simp only [List.all_eq_true]
  split
  · next written =>
      rw [and_iff_right written.1, and_iff_right written.2]
      simp only [Option.ite_none_right_eq_some, Option.some.injEq]
      constructor
      · rintro ⟨small, rfl⟩
        exact ⟨rfl, small⟩
      · rintro ⟨rfl, small⟩
        exact ⟨small, rfl⟩
  · next other =>
      simp only [reduceCtorEq, false_iff]
      rintro ⟨⟨some', digits, -⟩, -⟩
      exact other ⟨some', digits⟩

/-- **Addresses are read**, as their host and their port. -/
theorem readAddress_eq_ok_iff : readAddress cs = .ok (host, port) ↔ IsAddress cs host port := by
  rw [IsAddress]
  constructor
  · intro ok
    rw [readAddress] at ok
    split at ok
    · cases ok
    · next letters digits cut =>
        obtain ⟨parts, last⟩ := splitLast_eq_some_iff.mp cut
        split at ok
        · cases ok
        · next word =>
            split at ok
            · next n written =>
                cases ok
                obtain ⟨numeral, small⟩ := readPort?_eq_some_iff.mp written
                rw [String.toList_ofList]
                exact ⟨digits, parts, last, isWord_iff.mpr word, numeral, small⟩
            · cases ok
  · rintro ⟨digits, parts, last, word, numeral, small⟩
    have cut := splitLast_eq_some_iff.mpr ⟨parts, last⟩
    have port' := readPort?_eq_some_iff.mpr ⟨numeral, small⟩
    simp only [readAddress, cut, port', isWord_iff.mp word, if_false, String.ofList_toList]

/-- What cannot be read as an address is named in full. -/
theorem readAddress_eq_error (none' : ∀ host port, ¬ IsAddress cs host port) :
    readAddress cs = .error (.malformedAddress (String.ofList cs)) := by
  cases read : readAddress cs with
  | ok pair => exact absurd (readAddress_eq_ok_iff.mp read) (none' pair.1 pair.2)
  | error cause =>
      revert read
      fun_cases readAddress cs
      all_goals
        intro read
        cases read
      all_goals rfl

/-! ## Endpoints -/

/-- What is left to read behind a scheme that is a word. -/
theorem read_of_scheme (cut : FirstCut separator s.toList scheme.toList rest.toList)
    (word : IsWord scheme.toList) : read s =
      if scheme = "http" then .ok (.http false s)
      else if scheme = "https" then .ok (.http true s)
      else do
        let transport ← Transport.read scheme
        let (host, port) ← readAddress rest.toList
        return .raw transport host port := by
  rw [read, splitFirstText_eq_some_iff.mpr cut]
  simp only [isWord_iff.mp word, if_false, String.ofList_toList]

/-- Without a scheme that is a word a text is malformed. -/
theorem read_eq_malformed
    (none' : ∀ scheme rest : String,
      FirstCut separator s.toList scheme.toList rest.toList → ¬ IsWord scheme.toList) :
    read s = .error (.malformed s) := by
  rw [read]
  split
  · rfl
  · next scheme rest cut =>
      have first := splitFirstText_eq_some_iff.mp cut
      have broken := none' (String.ofList scheme) (String.ofList rest)
      simp only [String.toList_ofList] at broken
      have unfit : scheme = [] ∨ scheme.any isBlank = true := by
        rw [← not_not (a := _ ∨ _), ← isWord_iff]
        exact broken first
      rw [if_pos unfit]

section Transport

variable {transport : Transport}
  (cut : FirstCut separator s.toList transport.name.toList rest.toList)

include cut

/-- Behind the name of a transport only the address is left to read. -/
theorem read_of_transport : read s = do
    let (host, port) ← readAddress rest.toList
    return .raw transport host port := by
  have word : IsWord transport.name.toList := by cases transport <;> decide
  have notHttp : transport.name ≠ "http" := by cases transport <;> decide
  have notHttps : transport.name ≠ "https" := by cases transport <;> decide
  rw [read_of_scheme cut word, if_neg notHttp, if_neg notHttps, Transport.read_name]
  rfl

theorem read_eq_raw_iff : read s = .ok (.raw transport host port) ↔ IsAddress rest.toList host port := by
  rw [← readAddress_eq_ok_iff, read_of_transport cut]
  cases readAddress rest.toList <;> simp [bind, Except.bind, pure, Except.pure, Prod.ext_iff]

/-- What stands behind the name of a transport and is no address is refused for that. -/
theorem read_eq_malformedAddress (none' : ¬ ∃ host port, IsAddress rest.toList host port) :
    read s = .error (.malformedAddress rest) := by
  have refused := readAddress_eq_error fun host port address => none' ⟨host, port, address⟩
  rw [String.ofList_toList] at refused
  rw [read_of_transport cut, refused]
  rfl

theorem exists_read_iff :
    (∃ e, read s = .ok e) ↔ ∃ host port, IsAddress rest.toList host port := by
  constructor
  · rintro ⟨e, ok⟩
    by_contra none'
    rw [read_eq_malformedAddress cut none'] at ok
    cases ok
  · rintro ⟨host, port, address⟩
    exact ⟨_, (read_eq_raw_iff cut).mpr address⟩

end Transport

/-- Behind a scheme that is a word nothing is malformed as a whole. -/
theorem read_ne_malformed (cut : FirstCut separator s.toList scheme.toList rest.toList)
    (word : IsWord scheme.toList) (raw : String) : read s ≠ .error (.malformed raw) := by
  intro malformed
  by_cases known : ∃ t : Transport, scheme = t.name
  · obtain ⟨t, rfl⟩ := known
    by_cases address : ∃ host port, IsAddress rest.toList host port
    · obtain ⟨e, ok⟩ := (exists_read_iff cut).mpr address
      rw [ok] at malformed
      cases malformed
    · rw [read_eq_malformedAddress cut address] at malformed
      cases malformed
  · rw [read_of_scheme cut word, Transport.read_eq_error (not_exists.mp known)] at malformed
    split at malformed
    · cases malformed
    · split at malformed <;> cases malformed

/-- **A text is malformed** without a separator, and where the scheme is no word. -/
theorem read_eq_malformed_iff : read s = .error (.malformed s) ↔
    ¬ separator <:+: s.toList ∨ ∃ scheme rest : String,
      FirstCut separator s.toList scheme.toList rest.toList ∧ ¬ IsWord scheme.toList := by
  constructor
  · intro malformed
    by_cases separated : separator <:+: s.toList
    · obtain ⟨scheme, rest, cut⟩ := exists_firstCut separated
      rw [← String.toList_ofList (l := scheme), ← String.toList_ofList (l := rest)] at cut
      exact .inr ⟨_, _, cut, fun word => read_ne_malformed cut word s malformed⟩
    · exact .inl separated
  · rintro (unseparated | ⟨scheme, rest, cut, broken⟩)
    · refine read_eq_malformed fun scheme rest cut _ => unseparated ?_
      exact ⟨scheme.toList, rest.toList, cut.parts.symm⟩
    · refine read_eq_malformed fun scheme' rest' cut' => ?_
      rw [← (cut.unique cut').1]
      exact broken

/-- **Exactly these texts are endpoints, and every other one is refused for the first thing wrong.**  A text
is malformed without a `://`, and if what stands before the first one is no word.  Behind the schemes of
HTTP anything may stand.  Any other scheme has to name a transport, and then an address has to follow. -/
theorem read_by_grammar (s : String) :
    (read s = .error (.malformed s) ↔ ¬ separator <:+: s.toList ∨ ∃ scheme rest : String,
      FirstCut separator s.toList scheme.toList rest.toList ∧
        (scheme = "" ∨ ∃ c ∈ scheme.toList, isBlank c = true)) ∧
    ∀ scheme rest : String, FirstCut separator s.toList scheme.toList rest.toList →
      scheme ≠ "" → (∀ c ∈ scheme.toList, isBlank c = false) →
      (scheme = "http" → read s = .ok (.http false s)) ∧
      (scheme = "https" → read s = .ok (.http true s)) ∧
      (scheme ∉ ["http", "https", "tcp", "tcp4", "tcp6", "udp", "udp4", "udp6"] →
        read s = .error (.unsupportedProtocol scheme)) ∧
      ∀ transport : Transport, scheme = transport.name →
        (∀ host port, read s = .ok (.raw transport host port) ↔ IsAddress rest.toList host port) ∧
        ((∃ e, read s = .ok e) ↔ ∃ host port, IsAddress rest.toList host port) ∧
        ((¬ ∃ host port, IsAddress rest.toList host port) →
          read s = .error (.malformedAddress rest)) := by
  have noWord : ∀ scheme : String, ¬ IsWord scheme.toList ↔
      scheme = "" ∨ ∃ c ∈ scheme.toList, isBlank c = true := by
    intro scheme
    rw [isWord_iff, not_not, List.any_eq_true, String.toList_eq_nil_iff]
  refine ⟨?_, fun scheme rest cut some' whole => ?_⟩
  · simp only [read_eq_malformed_iff, noWord]
  · have word : IsWord scheme.toList := ⟨by simpa using some', whole⟩
    refine ⟨?_, ?_, fun unknown => ?_, ?_⟩
    · rintro rfl
      exact read_of_scheme cut word
    · rintro rfl
      exact read_of_scheme cut word
    · simp only [List.mem_cons, List.not_mem_nil, or_false, not_or] at unknown
      obtain ⟨notHttp, notHttps, tcp, tcp4, tcp6, udp, udp4, udp6⟩ := unknown
      have noTransport : ∀ t : Transport, scheme ≠ t.name := by
        intro t
        cases t <;> assumption
      rw [read_of_scheme cut word, if_neg notHttp, if_neg notHttps, Transport.read_eq_error noTransport]
      rfl
    · rintro transport rfl
      exact ⟨fun host port => read_eq_raw_iff cut, exists_read_iff cut, read_eq_malformedAddress cut⟩

/-- The host may have colons and another `://`, and zeros in front of a port do not matter. -/
theorem read_by_grammar_colons :
    FirstCut separator "tcp6://[::1]://a:0080".toList "tcp6".toList "[::1]://a:0080".toList ∧
      IsAddress "[::1]://a:0080".toList "[::1]://a" 80 ∧
      read "tcp6://[::1]://a:0080" = .ok (.raw .tcp6 "[::1]://a" 80) := by
  have cut : FirstCut separator "tcp6://[::1]://a:0080".toList "tcp6".toList "[::1]://a:0080".toList :=
    firstCut_of_splitFirstText (by decide)
  have address : IsAddress "[::1]://a:0080".toList "[::1]://a" 80 := by
    have digits : ∀ c ∈ "0080".toList, c.isDigit = true := List.all_eq_true.mp (by decide)
    exact ⟨"0080".toList, rfl, by decide, by decide, ⟨by decide, digits, by decide⟩, by decide⟩
  obtain ⟨-, behind⟩ := read_by_grammar "tcp6://[::1]://a:0080"
  have word : Text.IsWord "tcp6".toList := by decide
  obtain ⟨-, -, -, transports⟩ := behind "tcp6" "[::1]://a:0080" cut (by decide) word.2
  exact ⟨cut, address, ((transports .tcp6 rfl).1 _ _).mpr address⟩

end Endpoint

end StartupGate
