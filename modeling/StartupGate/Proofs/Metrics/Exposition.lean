/-
# StartupGate.Proofs.Metrics.Exposition -- the exposition can be read in one way only

Cut at the ends of lines, the text is the lines of the families that hold samples, and nothing else
(`Metrics.splitAll_text`): an escaped label value holds no end of line.  A line of a sample belongs to one
family, one combination of label values and one value (`Metrics.sampleText_inj`): a quote within a label
value is escaped, so the one that closes it is found (`Metrics.readEscaped_escape`).

* `Metrics.sampleText_mem_lines_iff`: a line of a sample is in the text exactly if the sample is held.
* `Metrics.text_inj`: the text determines the samples.
* `Metrics.text_summarizes_history`: the text in terms of the recorded events.
-/
import StartupGate.Proofs.Metrics.History
import StartupGate.Proofs.Number.Integer
import StartupGate.Proofs.Text.Split

set_option autoImplicit false

namespace StartupGate

/-- What the texts of a family do not hold: an end of line, the bracket in front of the labels, and the
mark of a comment. -/
structure Family.Plain (f : Family) : Prop where
  name : '\n' ∉ f.name.toList ∧ '\x7b' ∉ f.name.toList ∧ '#' ∉ f.name.toList
  help : '\n' ∉ f.help.toList
  labels : ∀ label ∈ f.labels, '\n' ∉ label.toList

namespace Metrics

variable {cs ds after after' : List Char} {f g : Family} {sample sample' : List String × Nat}
  {m m' : Metrics}

/-! ## Escaped values -/

/-- Reads an escaped label value up to the quote that closes it, and gives what follows. -/
def readEscaped : List Char → Option (List Char × List Char)
  | [] => none
  | '"' :: rest => some ([], rest)
  | '\\' :: c :: rest =>
      (readEscaped rest).map fun (value, after) => ((if c = 'n' then '\n' else c) :: value, after)
  | ['\\'] => none
  | c :: rest => (readEscaped rest).map fun (value, after) => (c :: value, after)

/-- **An escaped value is read back**, whatever it holds and whatever follows. -/
theorem readEscaped_escape (cs after : List Char) :
    readEscaped (cs.flatMap escapeChar ++ '"' :: after) = some (cs, after) := by
  induction cs with
  | nil => rfl
  | cons c rest ih =>
      rw [List.flatMap_cons, List.append_assoc, escapeChar]
      split
      · next backslash =>
          subst backslash
          simp [readEscaped, ih]
      · next noBackslash =>
          split
          · next quote =>
              subst quote
              simp [readEscaped, ih]
          · next noQuote =>
              split
              · next newline =>
                  subst newline
                  simp [readEscaped, ih]
              · simp [readEscaped, ih, noBackslash]

/-- So escaped values with what follows them are told apart. -/
theorem escape_inj
    (same : cs.flatMap escapeChar ++ '"' :: after = ds.flatMap escapeChar ++ '"' :: after') :
    cs = ds ∧ after = after' := by
  have read := congrArg readEscaped same
  rw [readEscaped_escape, readEscaped_escape] at read
  exact Prod.mk.inj (Option.some.inj read)

theorem newline_notMem_escape (cs : List Char) : '\n' ∉ cs.flatMap escapeChar := by
  intro member
  obtain ⟨c, -, written⟩ := List.mem_flatMap.mp member
  rw [escapeChar] at written
  split at written
  · simp at written
  · split at written
    · simp at written
    · split at written
      · simp at written
      · next noNewline =>
          exact noNewline (List.mem_singleton.mp written).symm

/-! ## Labels -/

theorem toList_labelText (label value : String) : (labelText label value).toList =
    label.toList ++ '=' :: '"' :: (value.toList.flatMap escapeChar ++ ['"']) := by
  simp [labelText, escape]

theorem labelText_inj {label a b : String}
    (same : (labelText label a).toList ++ after = (labelText label b).toList ++ after') :
    a = b ∧ after = after' := by
  simp only [toList_labelText, List.append_assoc, List.cons_append, List.nil_append,
    List.append_cancel_left_eq, List.cons.injEq, true_and] at same
  obtain ⟨values, rest⟩ := escape_inj same
  exact ⟨String.toList_injective values, rest⟩

/-- The labels of a sample as characters. -/
def labelsText (labels key : List String) : List Char :=
  [','].intercalate ((List.zipWith labelText labels key).map String.toList)

theorem labelsText_singleton (label value : String) (values : List String) :
    labelsText [label] (value :: values) = (labelText label value).toList := by
  simp [labelsText]

theorem labelsText_cons_cons (label next value value' : String) (labels values : List String) :
    labelsText (label :: next :: labels) (value :: value' :: values) =
      (labelText label value).toList ++ ',' :: labelsText (next :: labels) (value' :: values) := by
  simp [labelsText, List.intercalate_cons_cons]

/-- **Labels with their values are told apart**, if each label has one. -/
theorem labelsText_inj {labels key key' : List String} (arity : key.length = labels.length)
    (arity' : key'.length = labels.length)
    (same : labelsText labels key ++ after = labelsText labels key' ++ after') :
    key = key' ∧ after = after' := by
  induction labels generalizing key key' with
  | nil =>
      cases List.length_eq_zero_iff.mp arity
      cases List.length_eq_zero_iff.mp arity'
      exact ⟨rfl, same⟩
  | cons label labels ih =>
      obtain ⟨a, as, rfl⟩ := List.exists_cons_of_length_eq_add_one arity
      obtain ⟨b, bs, rfl⟩ := List.exists_cons_of_length_eq_add_one arity'
      rw [List.length_cons, List.length_cons, Nat.add_right_cancel_iff] at arity arity'
      cases labels with
      | nil =>
          cases List.length_eq_zero_iff.mp arity
          cases List.length_eq_zero_iff.mp arity'
          rw [labelsText_singleton, labelsText_singleton] at same
          obtain ⟨rfl, follows⟩ := labelText_inj same
          exact ⟨rfl, follows⟩
      | cons next labels =>
          obtain ⟨a', as, rfl⟩ := List.exists_cons_of_length_eq_add_one arity
          obtain ⟨b', bs, rfl⟩ := List.exists_cons_of_length_eq_add_one arity'
          rw [labelsText_cons_cons, labelsText_cons_cons, List.append_assoc, List.append_assoc] at same
          obtain ⟨rfl, others⟩ := labelText_inj same
          obtain ⟨values, follows⟩ := ih arity arity' (List.cons.inj others).2
          exact ⟨by rw [values], follows⟩

theorem newline_notMem_labelText {label : String} (plain : '\n' ∉ label.toList) (value : String) :
    '\n' ∉ (labelText label value).toList := by
  simp [-List.mem_flatMap, toList_labelText, plain, newline_notMem_escape]

theorem newline_notMem_labelsText {labels : List String} (plain : ∀ label ∈ labels, '\n' ∉ label.toList)
    (key : List String) : '\n' ∉ labelsText labels key := by
  induction labels generalizing key with
  | nil => exact List.not_mem_nil
  | cons label labels ih =>
      obtain ⟨first, others⟩ := List.forall_mem_cons.mp plain
      match labels, key with
      | _, [] => exact List.not_mem_nil
      | [], value :: values =>
          rw [labelsText_singleton]
          exact newline_notMem_labelText first value
      | next :: labels, [value] =>
          have single : labelsText (label :: next :: labels) [value] = (labelText label value).toList := by
            simp [labelsText]
          rw [single]
          exact newline_notMem_labelText first value
      | next :: labels, value :: value' :: values =>
          have before := newline_notMem_labelText first value
          have later := ih others (value' :: values)
          simp [labelsText_cons_cons, before, later]

/-! ## Lines -/

/-- The line of a sample, without its end. -/
def sampleText (f : Family) (sample : List String × Nat) : String :=
  f.name ++ "\x7b" ++ ",".intercalate (List.zipWith labelText f.labels sample.1) ++ "\x7d " ++
    Integer.toText sample.2

/-- The lines in front of the samples of a family. -/
def headLines (f : Family) : List String :=
  ["# HELP " ++ f.name ++ " " ++ f.help, "# TYPE " ++ f.name ++ " " ++ f.kind.word]

/-- The lines of a family that holds samples. -/
def familyLines (x : Family × Samples) : List String := headLines x.1 ++ x.2.map (sampleText x.1)

/-- The families with their samples, in the order of their names. -/
def families (m : Metrics) : List (Family × Samples) :=
  [(.healthChecks, m.healthChecks), (.healthStatus, m.healthStatus), (.leaseRequests, m.leaseRequests)]

/-- The families that hold samples. -/
def shown (m : Metrics) : List (Family × Samples) := m.families.filter fun x => !x.2.isEmpty

/-- The lines of the exposition, without their ends. -/
def lines (m : Metrics) : List String := m.shown.flatMap familyLines

theorem toList_sampleText (f : Family) (sample : List String × Nat) : (sampleText f sample).toList =
    f.name.toList ++ '\x7b' :: (labelsText f.labels sample.1 ++
      '\x7d' :: ' ' :: Integer.decimalDigits sample.2) := by
  simp [sampleText, labelsText, String.toList_intercalate]

/-- **A line of a sample is the line of one sample only.** -/
theorem sampleText_inj (plain : f.Plain) (plain' : g.Plain)
    (same : sampleText f sample = sampleText g sample') :
    f.name = g.name ∧ (f = g → sample.1.length = f.labels.length →
      sample'.1.length = f.labels.length → sample = sample') := by
  have chars := congrArg String.toList same
  rw [toList_sampleText, toList_sampleText] at chars
  constructor
  · have cut := congrArg (Text.splitAll '\x7b') chars
    rw [Text.splitAll_append plain.name.2.1, Text.splitAll_append plain'.name.2.1] at cut
    exact String.toList_injective (List.cons.inj cut).1
  · rintro rfl arity arity'
    rw [List.append_cancel_left_eq, List.cons.injEq] at chars
    obtain ⟨keys, rest⟩ := labelsText_inj arity arity' chars.2
    have digits : Integer.decimalDigits sample.2 = Integer.decimalDigits sample'.2 := by
      simpa using rest
    have values := congrArg Decimal.ofDigits digits
    rw [Integer.ofDigits_decimalDigits, Integer.ofDigits_decimalDigits] at values
    exact Prod.ext keys values

/-- A line of a sample is none of the lines in front. -/
theorem sampleText_notMem_headLines (plain : f.Plain) (sample : List String × Nat) (g : Family) :
    sampleText f sample ∉ headLines g := by
  intro member
  have marked : (sampleText f sample).toList.head? = some '#' := by
    rcases List.mem_pair.mp member with same | same <;> simp [same]
  rw [toList_sampleText] at marked
  cases name : f.name.toList with
  | nil => simp [name] at marked
  | cons c rest =>
      have first : c = '#' := by simpa [name] using marked
      exact plain.name.2.2 (by simp [name, first])

/-- A line has no end of line within. -/
theorem newline_notMem_familyLines {x : Family × Samples} (plain : x.1.Plain) :
    ∀ line ∈ familyLines x, '\n' ∉ line.toList := by
  intro line member
  rcases List.mem_append.mp member with head | held
  · have word : '\n' ∉ x.1.kind.word.toList := by cases x.1.kind <;> decide
    rcases List.mem_pair.mp head with rfl | rfl <;> simp [plain.name.1, plain.help, word]
  · obtain ⟨sample, -, rfl⟩ := List.mem_map.mp held
    have digits : '\n' ∉ Integer.decimalDigits sample.2 := Integer.sign_notMem_decimalDigits rfl
    have labels := newline_notMem_labelsText plain.labels sample.1
    simp [toList_sampleText, plain.name.1, labels, digits]

theorem forall_mem_families {P : Family × Samples → Prop} : (∀ x ∈ m.families, P x) ↔
    P (.healthChecks, m.healthChecks) ∧ P (.healthStatus, m.healthStatus) ∧
      P (.leaseRequests, m.leaseRequests) := by
  simp [families]

theorem plain_of_mem_families : ∀ x ∈ m.families, x.1.Plain := by
  have runs : Family.healthChecks.Plain := ⟨by decide, by decide, by decide⟩
  have status : Family.healthStatus.Plain := ⟨by decide, by decide, by decide⟩
  have requests : Family.leaseRequests.Plain := ⟨by decide, by decide, by decide⟩
  exact forall_mem_families.mpr ⟨runs, status, requests⟩

/-- The text of a family is its lines with their ends. -/
theorem toList_familyText (x : Family × Samples) : (familyText x.1 x.2).toList =
    if x.2.isEmpty then [] else (familyLines x).flatMap fun line => line.toList ++ ['\n'] := by
  rw [familyText]
  split
  · rfl
  · have line : ∀ sample, (sampleLine x.1 sample).toList = (sampleText x.1 sample).toList ++ ['\n'] := by
      intro sample
      simp [sampleLine, sampleText]
    simp [familyLines, headLines, List.flatMap_map, line]

/-- The text is the lines with their ends. -/
theorem toList_text (m : Metrics) :
    m.text.toList = m.lines.flatMap fun line => line.toList ++ ['\n'] := by
  have shownOnly : ∀ held : List (Family × Samples), held.flatMap (fun x => (familyText x.1 x.2).toList) =
      ((held.filter fun x => !x.2.isEmpty).flatMap familyLines).flatMap
        fun line => line.toList ++ ['\n'] := by
    intro held
    induction held with
    | nil => rfl
    | cons x rest ih =>
        rw [List.flatMap_cons, ih, toList_familyText, List.filter_cons]
        cases empty : x.2.isEmpty <;> simp
  rw [lines, shown, ← shownOnly]
  simp [text, families]

/-- **Cut at the ends of lines, the text is the lines of the families that hold samples.** -/
theorem splitAll_text (m : Metrics) :
    Text.splitAll '\n' m.text.toList = m.lines.map String.toList ++ [[]] := by
  have whole : ∀ line ∈ m.lines.map String.toList, '\n' ∉ line := by
    intro line member
    obtain ⟨line, inside, rfl⟩ := List.mem_map.mp member
    obtain ⟨x, held, own⟩ := List.mem_flatMap.mp inside
    exact newline_notMem_familyLines (plain_of_mem_families x (List.mem_of_mem_filter held)) line own
  rw [← Text.splitAll_ended whole, toList_text, List.flatMap_map]

/-! ## The samples in the text -/

/-- Each sample has as many label values as its family has labels. -/
def Fits (m : Metrics) : Prop := ∀ x ∈ m.families, ∀ sample ∈ x.2, sample.1.length = x.1.labels.length

/-- The families stand in the order of their names. -/
theorem names_increasing (m : Metrics) : (m.families.map fun x => x.1.name).Pairwise (· < ·) := by
  have names : (m.families.map fun x => x.1.name) =
      ["podlock_health_checks_total", "podlock_health_status", "podlock_lease_requests_total"] := rfl
  rw [names]
  decide

/-- A family is known by its name. -/
theorem eq_of_name_eq {x y : Family × Samples} (mem : x ∈ m.families) (mem' : y ∈ m.families)
    (same : x.1.name = y.1.name) : x = y := by
  have nodup : (m.families.map fun x => x.1.name).Nodup :=
    (names_increasing m).imp fun before => String.ne_of_lt before
  exact List.inj_on_of_nodup_map nodup mem mem' same

/-- **No line of a sample is forged**: it is in the text exactly if the sample is held. -/
theorem sampleText_mem_lines_iff (fits : m.Fits) {x : Family × Samples} (mem : x ∈ m.families)
    (arity : sample.1.length = x.1.labels.length) :
    sampleText x.1 sample ∈ m.lines ↔ sample ∈ x.2 := by
  constructor
  · intro inside
    obtain ⟨y, held, own⟩ := List.mem_flatMap.mp inside
    have mem' : y ∈ m.families := List.mem_of_mem_filter held
    rcases List.mem_append.mp own with head | line
    · exact absurd head (sampleText_notMem_headLines (plain_of_mem_families x mem) sample y.1)
    · obtain ⟨sample', held', same⟩ := List.mem_map.mp line
      obtain ⟨names, samples⟩ :=
        sampleText_inj (plain_of_mem_families x mem) (plain_of_mem_families y mem') same.symm
      obtain rfl : x = y := eq_of_name_eq mem mem' names
      rw [samples rfl arity (fits x mem sample' held')]
      exact held'
  · intro held
    have someHeld : x ∈ m.shown := by
      refine List.mem_filter.mpr ⟨mem, ?_⟩
      cases samples : x.2 with
      | nil => simp [samples] at held
      | cons first rest => rfl
    exact List.mem_flatMap.mpr ⟨x, someHeld, List.mem_append_right _ (List.mem_map_of_mem held)⟩

theorem lines_eq_of_text_eq (same : m.text = m'.text) : m.lines = m'.lines := by
  have cut := congrArg (fun text : String => Text.splitAll '\n' text.toList) same
  simp only [splitAll_text, List.append_cancel_right_eq] at cut
  exact List.map_injective_iff.mpr (fun _ _ => String.toList_injective) cut

/-- A family with the same lines in two texts has the same samples. -/
theorem mem_iff_of_lines_eq (fits : m.Fits) (fits' : m'.Fits) (same : m.lines = m'.lines) (f : Family)
    {samples samples' : Samples} (mem : (f, samples) ∈ m.families) (mem' : (f, samples') ∈ m'.families) :
    sample ∈ samples ↔ sample ∈ samples' := by
  have agree : sample.1.length = f.labels.length → (sample ∈ samples ↔ sample ∈ samples') := by
    intro arity
    have one := sampleText_mem_lines_iff fits mem arity
    have other := sampleText_mem_lines_iff fits' mem' arity
    rw [same] at one
    exact one.symm.trans other
  constructor
  · intro held
    exact (agree (fits (f, samples) mem sample held)).mp held
  · intro held
    exact (agree (fits' (f, samples') mem' sample held)).mpr held

/-- **The text determines the samples**, in all families at once. -/
theorem text_inj (fits : m.Fits) (fits' : m'.Fits) (ordered : m.Ordered) (ordered' : m'.Ordered)
    (same : m.text = m'.text) : m = m' := by
  have lines := lines_eq_of_text_eq same
  have runs : m.healthChecks = m'.healthChecks := by
    refine ordered.runs.ext ordered'.runs fun key v => ?_
    exact mem_iff_of_lines_eq fits fits' lines .healthChecks (by simp [families]) (by simp [families])
  have status : m.healthStatus = m'.healthStatus := by
    refine ordered.status.ext ordered'.status fun key v => ?_
    exact mem_iff_of_lines_eq fits fits' lines .healthStatus (by simp [families]) (by simp [families])
  have requests : m.leaseRequests = m'.leaseRequests := by
    refine ordered.requests.ext ordered'.requests fun key v => ?_
    exact mem_iff_of_lines_eq fits fits' lines .leaseRequests (by simp [families]) (by simp [families])
  exact (Metrics.mk.injEq ..).mpr ⟨requests, runs, status⟩

/-! ## The text in terms of the events -/

theorem fits_ofEvents (events : List Event) : (ofEvents events).Fits := by
  refine forall_mem_families.mpr ⟨?_, ?_, ?_⟩
  · rintro ⟨key, v⟩ held
    obtain ⟨name, healthy, -, rfl, -⟩ := mem_healthChecks_iff.mp held
    rfl
  · rintro ⟨key, v⟩ held
    obtain ⟨name, healthy, -, rfl, -⟩ := mem_healthStatus_iff.mp held
    rfl
  · rintro ⟨key, v⟩ held
    obtain ⟨outcome, -, rfl, -⟩ := mem_leaseRequests_iff.mp held
    rfl

/-- **The exposition says what was recorded, and nothing else.**  Cut at the ends of lines, it is the lines
of the families that hold samples, in the order of their names, and in each the samples in the order of
their label values, no two of which have the same.  A line of a sample is there exactly if the sample is
held, whatever the name of a check holds.  The requests for a lease and the runs of checks have a sample
for each combination of label values that was recorded, with the number of its events, and the gauge one
for each check that has run, with its last result.  Two histories give the same text exactly if they agree
in these numbers and results. -/
theorem text_summarizes_history :
    (∀ events : List Event, let m := ofEvents events
      Text.splitAll '\n' m.text.toList = (m.shown.flatMap familyLines).map String.toList ++ [[]] ∧
      (∀ x, x ∈ m.shown ↔ x ∈ m.families ∧ x.2 ≠ []) ∧
      (m.shown.map fun x => x.1.name).Pairwise (· < ·) ∧
      (∀ x ∈ m.families, x.2.Ordered) ∧
      (∀ x ∈ m.families, ∀ sample, sample.1.length = x.1.labels.length →
        (sampleText x.1 sample ∈ m.shown.flatMap familyLines ↔ sample ∈ x.2)) ∧
      (∀ key v, (key, v) ∈ m.leaseRequests ↔ ∃ outcome, .lease outcome ∈ events ∧
        key = [outcome.word] ∧ v = events.count (.lease outcome)) ∧
      (∀ key v, (key, v) ∈ m.healthChecks ↔ ∃ name healthy, .check name healthy ∈ events ∧
        key = [name, resultWord healthy] ∧ v = events.count (.check name healthy)) ∧
      ∀ key v, (key, v) ∈ m.healthStatus ↔ ∃ name healthy, LastResult events name healthy ∧
        key = [name] ∧ v = if healthy then 1 else 0) ∧
    ∀ events others : List Event, (ofEvents events).text = (ofEvents others).text ↔
      Agree events others := by
  refine ⟨fun events => ⟨splitAll_text _, fun x => ?_, ?_, ?_, ?_, fun key v => mem_leaseRequests_iff,
    fun key v => mem_healthChecks_iff, fun key v => mem_healthStatus_iff⟩, fun events others => ?_⟩
  · rw [shown, List.mem_filter]
    simp
  · exact List.pairwise_map.mpr ((List.pairwise_map.mp (names_increasing _)).filter _)
  · have ordered := ordered_ofEvents events
    exact forall_mem_families.mpr ⟨ordered.runs, ordered.status, ordered.requests⟩
  · exact fun x mem sample => sampleText_mem_lines_iff (fits_ofEvents events) mem
  · rw [← ofEvents_eq_iff]
    exact ⟨text_inj (fits_ofEvents events) (fits_ofEvents others) (ordered_ofEvents events)
      (ordered_ofEvents others), congrArg text⟩

/-- A name that ends a line and one that spells the escape of that end are told apart. -/
theorem text_summarizes_history_newline :
    (ofEvents [.check "a\n" true]).text ≠ (ofEvents [.check "a\\n" true]).text ∧
      sampleText .healthStatus (["a\n"], 1) ∈ (ofEvents [.check "a\n" true]).lines := by
  obtain ⟨texts, told⟩ := text_summarizes_history
  constructor
  · intro same
    have runs := ((told _ _).mp same).runs "a\n" true
    exact absurd runs (by decide)
  · obtain ⟨-, -, -, -, lines, -⟩ := texts [.check "a\n" true]
    have held : (["a\n"], 1) ∈ (ofEvents [.check "a\n" true]).healthStatus := by decide
    exact (lines (.healthStatus, _) (by simp [families]) _ rfl).mpr held

end Metrics

end StartupGate
