/-
# StartupGate.Proofs.Endpoint -- an endpoint that is written reads back

An endpoint that was read from some text is `Readable`: it is an HTTP URL as it was read, or it has a host
that is no empty text and has no blanks, and a port.  Such an endpoint is written so that it reads back
(`read_source`), and no other (`readable_iff`).
-/
import StartupGate.Endpoint
import StartupGate.Proofs.Number.Integer
import StartupGate.Proofs.Text.Split

set_option autoImplicit false

namespace StartupGate

/-- The name of a transport names it. -/
theorem Transport.read_name (t : Transport) : read t.name = .ok t := by cases t <;> rfl

namespace Endpoint

variable {e : Endpoint} {s host : String} {port : Nat} {transport : Transport} {cs : List Char}

/-- What an endpoint is like that some text is read as. -/
def Readable : Endpoint → Prop
  | .raw _ host port =>
      host ≠ "" ∧ (∀ c ∈ host.toList, Text.isBlank c = false) ∧ port ≤ Integer.maxUnsigned16
  | .http secure url => read url = .ok (.http secure url)

/-! ## Ports and addresses -/

theorem readPort?_decimalDigits (fits : port ≤ Integer.maxUnsigned16) :
    readPort? (Integer.decimalDigits port) = some port := by
  have digits : (Integer.decimalDigits port).all Char.isDigit = true :=
    List.all_eq_true.mpr (Integer.isDigit_of_mem_decimalDigits port)
  simp [readPort?, Integer.decimalDigits_ne_nil, digits, Integer.ofDigits_decimalDigits, fits]

theorem le_of_readPort? (ok : readPort? cs = some port) : port ≤ Integer.maxUnsigned16 := by
  unfold readPort? at ok
  split at ok
  · simp only at ok
    split at ok
    · next fits =>
        cases ok
        exact fits
    · cases ok
  · cases ok

/-- An address reads back as its host and its port. -/
theorem readAddress_addressText (some' : host ≠ "")
    (whole : ∀ c ∈ host.toList, Text.isBlank c = false) (fits : port ≤ Integer.maxUnsigned16) :
    readAddress (addressText host port).toList = .ok (host, port) := by
  have letters : (addressText host port).toList = host.toList ++ ':' :: Integer.decimalDigits port := by
    simp [addressText, String.toList_append]
  have noColon : ':' ∉ Integer.decimalDigits port := Integer.sign_notMem_decimalDigits rfl
  have letter : host.toList ≠ [] := by simpa using some'
  have noBlank : host.toList.any Text.isBlank = false := by simpa using whole
  rw [readAddress, letters, Text.splitLast_append noColon]
  simp [letter, noBlank, readPort?_decimalDigits fits]

theorem readable_of_readAddress (ok : readAddress cs = .ok (host, port)) :
    (Endpoint.raw transport host port).Readable := by
  unfold readAddress at ok
  split at ok
  · cases ok
  · next letters digits _ =>
      split at ok
      · cases ok
      · next fit =>
          rw [not_or] at fit
          split at ok
          · next n read =>
              cases ok
              refine ⟨?_, ?_, le_of_readPort? read⟩
              · simpa using fit.1
              · simpa using fit.2
          · cases ok

/-! ## Endpoints -/

theorem readable_of_read (ok : read s = .ok e) : e.Readable := by
  have again := ok
  unfold read at ok
  split at ok
  · cases ok
  · split at ok
    · cases ok
    · simp only at ok
      split at ok
      · cases ok
        exact again
      · split at ok
        · cases ok
          exact again
        · next scheme rest _ _ _ _ =>
            cases named : Transport.read (String.ofList scheme) with
            | error cause => simp [named, bind, Except.bind] at ok
            | ok transport =>
                cases address : readAddress rest with
                | error cause => simp [named, address, bind, Except.bind] at ok
                | ok pair =>
                    simp only [named, address, bind, Except.bind, pure, Except.pure] at ok
                    cases ok
                    exact readable_of_readAddress address

/-- **An endpoint that was read is written so that it reads back.** -/
theorem read_source (readable : e.Readable) : read e.source = .ok e := by
  cases e with
  | http secure url => exact readable
  | raw transport host port =>
      obtain ⟨some', whole, fits⟩ := readable
      have letters : (source (.raw transport host port)).toList =
          transport.name.toList ++ ':' :: ['/', '/'] ++ (addressText host port).toList := by
        simp [source, String.toList_append]
      have noColon : ':' ∉ transport.name.toList := by cases transport <;> decide
      have cut : Text.splitFirstText (':' :: ['/', '/'])
          (transport.name.toList ++ ':' :: ['/', '/'] ++ (addressText host port).toList) =
            some (transport.name.toList, (addressText host port).toList) :=
        Text.splitFirstText_append noColon
      have scheme : ¬ (transport.name.toList = [] ∨ transport.name.toList.any Text.isBlank = true) := by
        cases transport <;> decide
      have notHttp : transport.name ≠ "http" := by cases transport <;> decide
      have notHttps : transport.name ≠ "https" := by cases transport <;> decide
      rw [read, letters, separator, cut]
      simp only [if_neg scheme, String.ofList_toList, if_neg notHttp, if_neg notHttps,
        Transport.read_name, readAddress_addressText some' whole fits]
      rfl

/-- **The endpoints that some text is read as are the readable ones.** -/
theorem readable_iff : e.Readable ↔ ∃ s, read s = .ok e := by
  constructor
  · intro readable
    exact ⟨e.source, read_source readable⟩
  · rintro ⟨s, ok⟩
    exact readable_of_read ok

end Endpoint

end StartupGate
