/-
# StartupGate.Proofs.Gate.ClientUrl -- the lease that a client asks for by its URL

The client writes the whole seconds of a duration into its URL, and the gate reads them from the query of
the request.  Both sides agree over all durations (`requestedDuration_query`), so a lease that is granted
to the client ends when it has asked for (`asked_lease_length`).

* `read_url`: the path and the query of the client's URL, as the server sees them.
* `decodePairs_query`: the parameters in that query.
-/
import StartupGate.Proofs.Gate.Clients
import StartupGate.Proofs.Gate.Decision
import StartupGate.Proofs.Number.Integer
import StartupGate.Proofs.Text.FormEncoded

set_option autoImplicit false

namespace StartupGate

/-! ## The URL in parts -/

namespace LockClient

variable {host : String} {port : Nat} {duration : Option Duration}

/-- The characters that end the host of a URL. -/
def hostEnds : List Char := ['/', '\\', '?', '#']

/-- The host has no character that ends it. -/
def PlainHost (host : String) : Prop := ∀ c ∈ hostEnds, c ∉ host.toList

instance (host : String) : Decidable (PlainHost host) :=
  List.decidableBAll (fun c => c ∉ host.toList) hostEnds

/-- The query by which a client asks for a duration. -/
def query (duration : Option Duration) : List Char :=
  match duration with
  | some d => Gate.durationKey.toList ++ '=' :: Integer.decimalDigits d.seconds
  | none => []

/-- The path with the query, as they stand in a request. -/
def pathAndQuery (duration : Option Duration) : String :=
  match duration with
  | some d => "/?duration=" ++ Integer.toText d.seconds
  | none => "/"

theorem toList_url (host : String) (port : Nat) (duration : Option Duration) :
    (url host port duration).toList = "http".toList ++ ':' :: ['/', '/'] ++
      (host.toList ++ ':' :: Integer.decimalDigits port ++ (pathAndQuery duration).toList) := by
  cases duration <;> simp [url, pathAndQuery, String.toList_append]

theorem pathAndQuery_toList (duration : Option Duration) :
    (pathAndQuery duration).toList =
      '/' :: match duration with | some _ => '?' :: query duration | none => [] := by
  cases duration <;> simp [pathAndQuery, query, Gate.durationKey, String.toList_append]

/-- The path and the query are told apart. -/
theorem ofPath_pathAndQuery (duration : Option Duration) :
    Http.Target.ofPath (pathAndQuery duration).toList = ⟨['/'], query duration⟩ := by
  rw [pathAndQuery_toList]
  cases duration with
  | none => rfl
  | some d =>
      have cut : Text.splitFirst '?' (['/'] ++ '?' :: query (some d)) = some (['/'], query (some d)) :=
        Text.splitFirst_append (by decide)
      rw [List.singleton_append] at cut
      simp only [Http.Target.ofPath, cut]

theorem hash_notMem_pathAndQuery (duration : Option Duration) :
    '#' ∉ (pathAndQuery duration).toList := by
  have digits (n : Nat) : '#' ∉ Integer.decimalDigits n := Integer.sign_notMem_decimalDigits rfl
  cases duration <;> simp [pathAndQuery, String.toList_append, digits]

/-- **The server reads path and query from the target that a client sends.** -/
theorem read_pathAndQuery (duration : Option Duration) :
    Http.Target.read (pathAndQuery duration) = ⟨['/'], query duration⟩ := by
  have parts := ofPath_pathAndQuery duration
  have whole := Text.takeWhile_ne (hash_notMem_pathAndQuery duration)
  rw [Http.Target.read]
  simp only [whole]
  rw [pathAndQuery_toList] at parts ⊢
  exact parts

/-- **The server reads the same from the whole URL.** -/
theorem read_url (plain : PlainHost host) (port : Nat) (duration : Option Duration) :
    Http.Target.read (url host port duration) = ⟨['/'], query duration⟩ := by
  have digits (c : Char) (sign : c.isDigit = false) : c ∉ Integer.decimalDigits port :=
    Integer.sign_notMem_decimalDigits sign
  have parts := ofPath_pathAndQuery duration
  -- the authority goes up to the slash of the path
  have noFragment : '#' ∉ (url host port duration).toList := by
    have noHash := hash_notMem_pathAndQuery duration
    have hostHash := plain '#' (by decide)
    simp [toList_url, noHash, hostHash, digits]
  have authority : ∀ c ∈ host.toList ++ ':' :: Integer.decimalDigits port, c ≠ '/' ∧ c ≠ '?' := by
    intro c member
    constructor
    · rintro rfl
      have hostSlash := plain '/' (by decide)
      simp [hostSlash, digits] at member
    · rintro rfl
      have hostMark := plain '?' (by decide)
      simp [hostMark, digits] at member
  have behind : (host.toList ++ ':' :: Integer.decimalDigits port ++ (pathAndQuery duration).toList).dropWhile
      (fun c => c ≠ '/' ∧ c ≠ '?') = (pathAndQuery duration).toList := by
    rw [List.dropWhile_append_of_pos (by simpa using authority), pathAndQuery_toList]
    rfl
  have cut : Text.splitFirstText [':', '/', '/'] (url host port duration).toList =
      some ("http".toList, host.toList ++ ':' :: Integer.decimalDigits port ++
        (pathAndQuery duration).toList) := by
    rw [toList_url]
    exact Text.splitFirstText_append (by decide)
  have begins : (url host port duration).toList = 'h' :: (url host port duration).toList.tail := by
    rw [toList_url]
    rfl
  rw [Http.Target.read]
  simp only [Text.takeWhile_ne noFragment]
  split
  · next slash =>
      rw [begins] at slash
      cases slash
  · simp only [cut, behind]
    rw [pathAndQuery_toList] at parts ⊢
    exact parts

/-! ## The parameters -/

/-- The parameters by which a client asks for a duration. -/
theorem decodePairs_query (duration : Option Duration) :
    FormEncoded.decodePairs (query duration) =
      (duration.map fun d => (Gate.durationKey, Integer.toText d.seconds)).toList := by
  cases duration with
  | none => rfl
  | some d =>
      have digits (c : Char) (sign : c.isDigit = false) : c ∉ Integer.decimalDigits d.seconds :=
        Integer.sign_notMem_decimalDigits sign
      have letters : Gate.durationKey.toList.all
          (fun c => '+'.toNat < c.toNat ∧ c.toNat < 0x80) = true := by decide
      have literalKey : ∀ c ∈ Gate.durationKey.toList, FormEncoded.Literal c := by
        intro c member
        obtain ⟨behind, ascii⟩ := of_decide_eq_true (List.all_eq_true.mp letters c member)
        exact FormEncoded.literal_of_between behind ascii
      have literalValue : ∀ c ∈ Integer.decimalDigits d.seconds, FormEncoded.Literal c := by
        intro c member
        exact FormEncoded.literal_of_isDigit (Integer.isDigit_of_mem_decimalDigits d.seconds c member)
      have single : '&' ∉ Gate.durationKey.toList ++ '=' :: Integer.decimalDigits d.seconds := by
        have key : '&' ∉ Gate.durationKey.toList := by decide
        simp [key, digits]
      have pairs := FormEncoded.decodePairs_single literalKey literalValue (by decide) single
      rw [String.ofList_toList] at pairs
      exact pairs

/-- **The gate reads the whole seconds that the client has written**, all that fit 64 bits. -/
theorem requestedDuration_query
    (fits : ∀ d, duration = some d → d.seconds ≤ Integer.maxUnsigned64) :
    Gate.requestedDuration (FormEncoded.decodePairs (query duration)) =
      duration.map fun d => .ofSeconds d.seconds := by
  rw [decodePairs_query]
  cases duration with
  | none => rfl
  | some d =>
      have read := Integer.readUnsigned_decimalDigits (fits d rfl)
      simp [Gate.requestedDuration, read]

end LockClient

/-! ## The lease -/

/-- A granted request takes one lease, for the duration it asks for. -/
theorem Gate.expiries_of_granted {g : Gate} {now : Instant} {r : Http.Request} (root : r.ReadsRoot)
    (granted : (g.respond .gate now r).1.status = LockClient.grantedStatus) :
    (g.respond .gate now r).2.leases.expiries =
      (g.leases.sweep now).expiries ++ [now.after (g.leaseDuration r.params)] := by
  obtain ⟨status, gate⟩ := g.respond_root now root
  rw [status] at granted
  rw [gate]
  rcases g.requestLease_cases now r.params with ⟨-, decided⟩ | ⟨-, -, decided⟩ | ⟨-, -, decided⟩
  · rw [decided] at granted
    cases granted
  · rw [decided] at granted
    cases granted
  · rw [decided]
    rfl

/-- **The lease length a client asks for is the one the gate uses.**  Take any port, any host without a
character that ends it, and a duration of up to 64 bits of seconds, or none.  The gate reads the whole
seconds of the duration from the client's URL, or that the client leaves the duration to the gate.  So:

* A request by that URL, or by its path and query, that is granted takes one lease, which ends that many
  seconds later, or after the gate's default, or after thirty years if the clock cannot show that.
* Whatever clients wait at a gate and whatever happens there, a client with this URL that holds a lease
  holds one of that length from the instant of the grant. -/
theorem asked_lease_length (host : String) (port : Nat) (duration : Option Duration)
    (plain : LockClient.PlainHost host)
    (fits : ∀ d, duration = some d → d.seconds ≤ Integer.maxUnsigned64) :
    let url := LockClient.url host port duration
    let params := FormEncoded.decodePairs (Http.Target.read url).query
    let ends := fun (granted : Instant) (default : Duration) =>
      let span := match duration with
        | some d => d.seconds * Duration.nanosPerSecond
        | none => default.nanos
      if granted + span < clockLimit then granted + span else granted + farFuture.nanos
    Gate.requestedDuration params = duration.map (fun d => .ofSeconds d.seconds) ∧
    (∀ (g : Gate) (now : Instant) (r : Http.Request),
      r.target = url ∨ r.target = LockClient.pathAndQuery duration →
      r.method = "GET" ∨ r.method = "HEAD" →
      (g.respond .gate now r).1.status = 200 →
      (g.respond .gate now r).2.leases.expiries =
        (g.leases.sweep now).expiries ++ [ends now g.defaultDuration]) ∧
    ∀ (capacity : Nat) (default : Duration) (signals : List Signal)
      (clients : List (List (String × String))) (events : List WaitingEvent),
      let w := (WaitingRoom.new (.new capacity default signals) clients).run events
      ∀ (i : Nat) (c : LeaseClient) (n lease : Nat), w.clients[i]? = some c → c.params = params →
        c.stage = .holding n lease →
        ∃ g, w.floor.grants[lease]? = some g ∧ g.granted ≤ w.floor.now ∧
          g.expiry = ends g.granted default := by
  intro url params ends
  have target : Http.Target.read url = ⟨['/'], LockClient.query duration⟩ :=
    LockClient.read_url plain port duration
  have asked : Gate.requestedDuration params = duration.map fun d => .ofSeconds d.seconds := by
    show Gate.requestedDuration (FormEncoded.decodePairs (Http.Target.read url).query) = _
    rw [target]
    exact LockClient.requestedDuration_query fits
  have spelled (granted : Instant) (default : Duration) :
      granted.after ((Gate.requestedDuration params).getD default) = ends granted default := by
    rw [asked, Instant.after_eq]
    cases duration <;> rfl
  refine ⟨asked, ?_, ?_⟩
  · intro g now r byUrl method granted
    have read : Http.Target.read r.target = Http.Target.read url := by
      rcases byUrl with whole | path
      · rw [whole]
      · rw [path, LockClient.read_pathAndQuery, target]
    have root : r.ReadsRoot := ⟨by rw [read, target], method⟩
    have same : r.params = params := by rw [Http.Request.params, read]
    rw [Gate.expiries_of_granted root granted, Gate.leaseDuration, same, spelled]
  · intro capacity default signals clients events w i c n lease found same holding
    have sound : w.Sound capacity default :=
      WaitingRoom.Sound.run ⟨Floor.sound_new capacity default signals, WaitingRoom.linked_new _ _⟩ events
    have holds : c.held? = some lease := by rw [LeaseClient.held?, holding]
    obtain ⟨m, -, granted⟩ := sound.granted? found holds
    obtain ⟨number, g, sameLease, recorded, past, ends'⟩ := sound.floor.owns m _ _ granted
    cases sameLease
    refine ⟨g, recorded, past, ?_⟩
    rw [ends', same, spelled]

/-- The longest duration there is, with a fraction of a second, is asked for in full and cut to thirty years,
since the clock cannot show its end. -/
theorem longest_lease_length :
    let longest : Duration := .ofParts Integer.maxUnsigned64 999999999
    let url := LockClient.url "127.0.0.1" 8888 (some longest)
    let g : Gate := .new 1 (.ofSeconds 60) []
    Gate.requestedDuration (FormEncoded.decodePairs (Http.Target.read url).query) =
        some (.ofSeconds Integer.maxUnsigned64) ∧
      (g.respond .gate 0 ⟨"GET", url⟩).1.status = 200 ∧
      (g.respond .gate 0 ⟨"GET", url⟩).2.leases.expiries = [farFuture.nanos] := by
  intro longest url g
  have plain : LockClient.PlainHost "127.0.0.1" := by decide
  have fits : ∀ d, some longest = some d → d.seconds ≤ Integer.maxUnsigned64 := by
    rintro d ⟨⟩
    decide
  obtain ⟨asked, request, -⟩ := asked_lease_length "127.0.0.1" 8888 (some longest) plain fits
  have read : Http.Target.read url = ⟨['/'], LockClient.query (some longest)⟩ :=
    LockClient.read_url plain 8888 (some longest)
  have root : Http.Request.ReadsRoot ⟨"GET", url⟩ := ⟨by rw [read], .inl rfl⟩
  have granted : (g.respond .gate 0 ⟨"GET", url⟩).1.status = 200 :=
    Gate.status_of_room root rfl Nat.zero_lt_one
  have seconds : longest.seconds = Integer.maxUnsigned64 := by decide
  have ends := request g 0 ⟨"GET", url⟩ (.inl rfl) (.inl rfl) granted
  simp only [Option.map_some, seconds] at asked ends
  refine ⟨asked, granted, ends.trans ?_⟩
  decide

end StartupGate
