/-
# StartupGate.Proofs.Endpoint.RoundTrip -- writing an endpoint and reading it are inverse

The scheme that was typed is the protocol of the endpoint that was read (`Endpoint.firstCut_of_read`), so
what is written has its first `://` where the typed text has it, whatever stands in the host.  The last
colon that is written stands in front of the port, because a port has no colon.  So neither cut can
move, and only the zeros in front of a port get lost.

* `addressText_inj`: an address has one host and one port.
* `eq_of_written`: a protocol and an address, or a protocol and a URL, belong to one endpoint.
* `read_written`: what was read and is written reads as before.
-/
import StartupGate.Proofs.Endpoint.Grammar

set_option autoImplicit false

namespace StartupGate

/-! ## Transports -/

namespace Transport

variable {t t' : Transport} {scheme : String}

/-- No two transports have one name. -/
theorem name_inj (same : t.name = t'.name) : t = t' := by
  have read := read_name t
  rw [same, read_name t'] at read
  exact (Except.ok.inj read).symm

theorem read_eq_ok_iff : read scheme = .ok t ↔ scheme = t.name := by
  constructor
  · intro ok
    by_cases known : ∃ t' : Transport, scheme = t'.name
    · obtain ⟨t', rfl⟩ := known
      rw [read_name] at ok
      rw [Except.ok.inj ok]
    · rw [read_eq_error (not_exists.mp known)] at ok
      cases ok
  · rintro rfl
    exact read_name t

end Transport

namespace Endpoint

open Text

variable {s host host' address url : String} {port port' : Nat} {e e' : Endpoint}

/-! ## One endpoint for one text -/

/-- An address has one host and one port, since no colon stands behind the last one. -/
theorem addressText_inj (same : addressText host port = addressText host' port') :
    host = host' ∧ port = port' := by
  have letters : host.toList ++ ':' :: Integer.decimalDigits port =
      host'.toList ++ ':' :: Integer.decimalDigits port' := by
    simpa [addressText, String.toList_append] using congrArg String.toList same
  have noColon : ∀ n, ':' ∉ Integer.decimalDigits n := fun n => Integer.sign_notMem_decimalDigits rfl
  have cut : splitLast ':' (host.toList ++ ':' :: Integer.decimalDigits port) =
      some (host.toList, Integer.decimalDigits port) :=
    splitLast_append (noColon port)
  rw [letters, splitLast_append (noColon port'), Option.some.injEq, Prod.mk.injEq] at cut
  obtain ⟨hosts, digits⟩ := cut
  refine ⟨(String.toList_inj.mp hosts).symm, ?_⟩
  rw [← Integer.ofDigits_decimalDigits port, ← digits, Integer.ofDigits_decimalDigits]

/-- **A protocol and an address belong to one endpoint**, and so do a protocol and a URL. -/
theorem eq_of_written (protocol : e.protocol = e'.protocol)
    (written : (∃ address, e.address? = some address ∧ e'.address? = some address) ∨
      ∃ url, e.url? = some url ∧ e'.url? = some url) : e = e' := by
  rcases written with ⟨address, left, right⟩ | ⟨url, left, right⟩
  · cases e with
    | http secure url => cases left
    | raw transport host port =>
        cases e' with
        | http secure url => cases right
        | raw transport' host' port' =>
            have same : addressText host port = addressText host' port' :=
              Option.some.inj (left.trans right.symm)
            obtain ⟨rfl, rfl⟩ := addressText_inj same
            rw [Transport.name_inj protocol]
  · cases e with
    | raw transport host port => cases left
    | http secure url =>
        cases e' with
        | raw transport' host' port' => cases right
        | http secure' url' =>
            obtain rfl : url = url' := Option.some.inj (left.trans right.symm)
            have schemes : secure = secure' := by
              cases secure <;> cases secure' <;> simp [Endpoint.protocol] at protocol ⊢
            rw [schemes]

/-! ## What is written -/

theorem source_of_address (raw : e.address? = some address) :
    e.source = e.protocol ++ "://" ++ address := by
  cases e with
  | http secure url => cases raw
  | raw transport host port =>
      cases raw
      rfl

theorem source_of_url (http : e.url? = some url) : e.source = url := by
  cases e with
  | raw transport host port => cases http
  | http secure text =>
      cases http
      rfl

/-- An endpoint is written with its address or as its URL. -/
theorem address_or_url (e : Endpoint) :
    (∃ address, e.address? = some address ∧ e.url? = none) ∨
      ∃ url, e.url? = some url ∧ e.address? = none := by
  cases e with
  | raw transport host port => exact .inl ⟨_, rfl, rfl⟩
  | http secure url => exact .inr ⟨url, rfl, rfl⟩

/-! ## What is read -/

/-- **The scheme that was typed is the protocol of the endpoint.** -/
theorem firstCut_of_read (ok : read s = .ok e) :
    ∃ rest : String, FirstCut separator s.toList e.protocol.toList rest.toList := by
  have wellFormed : ¬ read s = .error (.malformed s) := by
    rw [ok]
    exact nofun
  rw [read_eq_malformed_iff, not_or, not_not, not_exists] at wellFormed
  obtain ⟨separated, words⟩ := wellFormed
  obtain ⟨before, after, cut⟩ := exists_firstCut separated
  rw [← String.toList_ofList (l := before), ← String.toList_ofList (l := after)] at cut
  generalize String.ofList before = scheme at cut
  generalize String.ofList after = rest at cut
  have word : IsWord scheme.toList := by
    by_contra broken
    exact words scheme ⟨rest, cut, broken⟩
  refine ⟨rest, ?_⟩
  rw [read_of_scheme cut word] at ok
  split at ok
  · next http =>
      cases ok
      subst http
      exact cut
  · split at ok
    · next https =>
        cases ok
        subst https
        exact cut
    · cases named : Transport.read scheme with
      | error cause =>
          rw [named] at ok
          cases ok
      | ok transport =>
          obtain rfl := Transport.read_eq_ok_iff.mp named
          cases address : readAddress rest.toList with
          | error cause =>
              rw [named, address] at ok
              cases ok
          | ok pair =>
              rw [named, address] at ok
              cases ok
              exact cut

/-- **Reading an endpoint and writing it are inverse.**  Whatever text an endpoint was read from, its
protocol is the scheme that was typed, and it reads back from its protocol and its address, or from its
URL.  So what was read and is written reads as before.  Of all endpoints, read or not, no two have the same
protocol and the same address or URL. -/
theorem read_written :
    (∀ (s : String) (e : Endpoint), read s = .ok e →
      (∃ rest : String, FirstCut separator s.toList e.protocol.toList rest.toList) ∧
      ((∃ address, e.address? = some address ∧ e.url? = none ∧
          e.source = e.protocol ++ "://" ++ address ∧
          read (e.protocol ++ "://" ++ address) = .ok e) ∨
        ∃ url, e.url? = some url ∧ e.address? = none ∧ e.source = url ∧ read url = .ok e) ∧
      read e.source = read s) ∧
    ∀ e e' : Endpoint, e.protocol = e'.protocol →
      ((∃ address, e.address? = some address ∧ e'.address? = some address) ∨
        ∃ url, e.url? = some url ∧ e'.url? = some url) → e = e' := by
  refine ⟨fun s e ok => ?_, fun e e' protocol written => eq_of_written protocol written⟩
  have back : read e.source = .ok e := read_source (readable_of_read ok)
  refine ⟨firstCut_of_read ok, ?_, back.trans ok.symm⟩
  rcases e.address_or_url with ⟨address, raw, other⟩ | ⟨url, http, other⟩
  · have source := source_of_address raw
    exact .inl ⟨address, raw, other, source, source ▸ back⟩
  · have source := source_of_url http
    exact .inr ⟨url, http, other, source, source ▸ back⟩

/-- A host with colons and another `://` in it, and a port with zeros in front, which get lost. -/
theorem read_written_colons :
    read "tcp6://[::1]://a:0080" = .ok (.raw .tcp6 "[::1]://a" 80) ∧
      read "tcp6://[::1]://a:80" = .ok (.raw .tcp6 "[::1]://a" 80) ∧
      ∀ e : Endpoint, e.protocol = "tcp6" → e.address? = some "[::1]://a:80" → e = .raw .tcp6 "[::1]://a" 80 := by
  have typed : read "tcp6://[::1]://a:0080" = .ok (.raw .tcp6 "[::1]://a" 80) := by decide
  have address : (raw .tcp6 "[::1]://a" 80).address? = some "[::1]://a:80" := by decide +kernel
  have source : (raw .tcp6 "[::1]://a" 80).source = "tcp6://[::1]://a:80" := by decide +kernel
  obtain ⟨-, -, again⟩ := read_written.1 _ _ typed
  refine ⟨typed, ?_, fun e protocol written => ?_⟩
  · rw [← source, again, typed]
  · exact read_written.2 e _ protocol (.inl ⟨_, written, address⟩)

end Endpoint

end StartupGate
