/-
# StartupGate.Proofs.Metrics.History -- what the samples say of the recorded events

Both counters hold one sample for each combination of label values that was recorded, with the number of
the events that recorded it (`Samples.counted`).  The gauge holds one for each check, with the result of its
last run (`Metrics.LastResult`).

* `Metrics.mem_leaseRequests_iff`, `Metrics.mem_healthChecks_iff`, `Metrics.mem_healthStatus_iff`: the
  samples of each family in terms of the events.
* `Metrics.ofEvents_eq_iff`: the same samples come of events with the same counts and last results.
-/
import Mathlib.Data.List.Induction
import Mathlib.Data.List.Sort
import StartupGate.Proofs.Metrics.Checks

set_option autoImplicit false

namespace StartupGate

namespace Samples

variable {s t : Samples} {key : List String} {keys : List (List String)} {v : Nat}

/-! ## Tables -/

/-- In order, label values stand in one sample at most. -/
theorem mem_iff_get? (ordered : s.Ordered) : (key, v) ∈ s ↔ s.get? key = some v := by
  induction s with
  | nil => exact ⟨nofun, nofun⟩
  | cons y rest ih =>
      obtain ⟨k, w⟩ := y
      obtain ⟨first, others⟩ := List.pairwise_cons.mp ordered
      rw [List.mem_cons, Prod.mk.injEq, get?_cons, ih others]
      by_cases same : key = k
      · subst same
        have absent : get? rest key = none := by
          refine get?_eq_none fun x member again => ?_
          have before := first x member
          rw [again, keyBefore_irrefl] at before
          cases before
        simp [absent, eq_comm]
      · simp [same]

/-- Tables in order with the same samples are the same. -/
theorem Ordered.ext (first : s.Ordered) (second : t.Ordered)
    (same : ∀ key v, (key, v) ∈ s ↔ (key, v) ∈ t) : s = t := by
  let before : List String × Nat → List String × Nat → Prop := fun a b => keyBefore a.1 b.1 = true
  have irrefl : Std.Irrefl before := by
    refine ⟨fun a again => ?_⟩
    have never := keyBefore_irrefl a.1
    exact absurd (again.symm.trans never) nofun
  have antisymm : Std.Antisymm before :=
    ⟨fun a b one other => absurd (keyBefore_trans one other) (irrefl.irrefl a)⟩
  exact List.Pairwise.eq_of_mem_iff first second fun x => same x.1 x.2

/-! ## Counters -/

/-- The samples that count label values. -/
def counted (keys : List (List String)) : Samples :=
  keys.foldl (fun s key => s.update key (· + 1)) []

theorem counted_concat (keys : List (List String)) (key : List String) :
    counted (keys ++ [key]) = (counted keys).update key (· + 1) := by
  simp [counted]

theorem ordered_counted (keys : List (List String)) : (counted keys).Ordered := by
  induction keys using List.reverseRecOn with
  | nil => exact ordered_nil
  | append_singleton keys key ih =>
      rw [counted_concat]
      exact ordered_update ih key _

theorem getD_of_read (read : s.get? key = if key ∈ keys then some (keys.count key) else none) :
    (s.get? key).getD 0 = keys.count key := by
  rw [read]
  split
  · rfl
  · next absent => exact (List.count_eq_zero.mpr absent).symm

/-- **A counter reads how often its label values were counted**; what never was has none. -/
theorem get?_counted (keys : List (List String)) (key : List String) :
    (counted keys).get? key = if key ∈ keys then some (keys.count key) else none := by
  induction keys using List.reverseRecOn with
  | nil => rfl
  | append_singleton keys last ih =>
      rw [counted_concat, get?_update (ordered_counted keys)]
      by_cases same : key = last
      · subst same
        simp [getD_of_read ih, List.count_append]
      · have other : (last == key) = false := beq_false_of_ne (Ne.symm same)
        rw [if_neg same, ih]
        simp [same, List.count_append, List.count_singleton, other]

theorem getD_counted (keys : List (List String)) (key : List String) :
    ((counted keys).get? key).getD 0 = keys.count key :=
  getD_of_read (get?_counted keys key)

theorem mem_counted_iff : (key, v) ∈ counted keys ↔ key ∈ keys ∧ v = keys.count key := by
  rw [mem_iff_get? (ordered_counted keys), get?_counted]
  split
  · next member => simp [member, eq_comm]
  · next absent => simp [absent]

end Samples

namespace Metrics

variable {events others : List Event} {key : List String} {v : Nat} {name : String} {healthy : Bool}

theorem ofEvents_concat (events : List Event) (e : Event) :
    ofEvents (events ++ [e]) = (ofEvents events).record e := by
  simp [ofEvents]

/-! ## Counted events -/

/-- The label values under which an event is counted among the requests for a lease. -/
def Event.leaseKey? : Event → Option (List String)
  | .lease outcome => some [outcome.word]
  | .check _ _ => none

/-- The label values under which an event is counted among the runs of checks. -/
def Event.runKey? : Event → Option (List String)
  | .lease _ => none
  | .check name healthy => some [name, resultWord healthy]

theorem Event.leaseKey?_inj {e e' : Event} (one : e.leaseKey? = some key)
    (other : e'.leaseKey? = some key) : e = e' := by
  cases e with
  | check name healthy => cases one
  | lease outcome =>
      cases e' with
      | check name healthy => cases other
      | lease outcome' =>
          have same : [outcome.word] = [outcome'.word] := Option.some.inj (one.trans other.symm)
          rw [word_inj.mp same]

theorem Event.runKey?_inj {e e' : Event} (one : e.runKey? = some key)
    (other : e'.runKey? = some key) : e = e' := by
  cases e with
  | lease outcome => cases one
  | check name healthy =>
      cases e' with
      | lease outcome => cases other
      | check name' healthy' =>
          have same : [name, resultWord healthy] = [name', resultWord healthy'] :=
            Option.some.inj (one.trans other.symm)
          rw [List.cons.injEq, List.cons.injEq, resultWord_inj] at same
          rw [same.1, same.2.1]

/-- The counter of the requests for a lease. -/
theorem leaseRequests_ofEvents (events : List Event) :
    (ofEvents events).leaseRequests = .counted (events.filterMap Event.leaseKey?) := by
  induction events using List.reverseRecOn with
  | nil => rfl
  | append_singleton events e ih =>
      rw [ofEvents_concat, List.filterMap_append]
      cases e with
      | lease outcome => exact (congrArg _ ih).trans (Samples.counted_concat _ _).symm
      | check name healthy =>
          have uncounted : [Event.check name healthy].filterMap Event.leaseKey? = [] := rfl
          rw [uncounted, List.append_nil]
          exact ih

/-- The counter of the runs of checks. -/
theorem healthChecks_ofEvents (events : List Event) :
    (ofEvents events).healthChecks = .counted (events.filterMap Event.runKey?) := by
  induction events using List.reverseRecOn with
  | nil => rfl
  | append_singleton events e ih =>
      rw [ofEvents_concat, List.filterMap_append]
      cases e with
      | lease outcome =>
          have uncounted : [Event.lease outcome].filterMap Event.runKey? = [] := rfl
          rw [uncounted, List.append_nil]
          exact ih
      | check name healthy => exact (congrArg _ ih).trans (Samples.counted_concat _ _).symm

section Keys

variable {key? : Event → Option (List String)}
  (inj : ∀ {e e' key}, key? e = some key → key? e' = some key → e = e')

include inj

/-- Label values that belong to one event are counted as often as it was recorded. -/
theorem count_filterMap {e : Event} (labels : key? e = some key) :
    (events.filterMap key?).count key = events.count e := by
  rw [List.count_filterMap, List.count]
  refine List.countP_congr fun e' _ => ?_
  rw [beq_iff_eq, beq_iff_eq]
  exact ⟨fun labels' => inj labels' labels, fun same => same ▸ labels⟩

/-- A counter of events has a sample for each event that was recorded and is counted. -/
theorem mem_counted_filterMap_iff : (key, v) ∈ Samples.counted (events.filterMap key?) ↔
    ∃ e ∈ events, key? e = some key ∧ v = events.count e := by
  rw [Samples.mem_counted_iff, List.mem_filterMap]
  constructor
  · rintro ⟨⟨e, member, labels⟩, rfl⟩
    exact ⟨e, member, labels, count_filterMap inj labels⟩
  · rintro ⟨e, member, labels, rfl⟩
    exact ⟨⟨e, member, labels⟩, (count_filterMap inj labels).symm⟩

end Keys

/-- **The samples of the requests for a lease**: one for each outcome that was recorded, with the number of
the requests that ended so. -/
theorem mem_leaseRequests_iff : (key, v) ∈ (ofEvents events).leaseRequests ↔
    ∃ outcome, .lease outcome ∈ events ∧ key = [outcome.word] ∧ v = events.count (.lease outcome) := by
  rw [leaseRequests_ofEvents, mem_counted_filterMap_iff Event.leaseKey?_inj]
  constructor
  · rintro ⟨e, member, labels, rfl⟩
    cases e with
    | lease outcome => exact ⟨outcome, member, (Option.some.inj labels).symm, rfl⟩
    | check name healthy => cases labels
  · rintro ⟨outcome, member, rfl, rfl⟩
    exact ⟨_, member, rfl, rfl⟩

/-- **The samples of the runs of checks**: one for each check and result that was recorded, with the number
of the runs that ended so. -/
theorem mem_healthChecks_iff : (key, v) ∈ (ofEvents events).healthChecks ↔
    ∃ name healthy, .check name healthy ∈ events ∧ key = [name, resultWord healthy] ∧
      v = events.count (.check name healthy) := by
  rw [healthChecks_ofEvents, mem_counted_filterMap_iff Event.runKey?_inj]
  constructor
  · rintro ⟨e, member, labels, rfl⟩
    cases e with
    | lease outcome => cases labels
    | check name healthy => exact ⟨name, healthy, member, (Option.some.inj labels).symm, rfl⟩
  · rintro ⟨name, healthy, member, rfl, rfl⟩
    exact ⟨_, member, rfl, rfl⟩

/-- The counter of an outcome reads how often it was recorded. -/
theorem leaseCount_ofEvents (events : List Event) (outcome : LeaseOutcome) :
    (ofEvents events).leaseCount outcome = events.count (.lease outcome) := by
  rw [leaseCount, leaseRequests_ofEvents, Samples.getD_counted]
  exact count_filterMap Event.leaseKey?_inj rfl

/-- The counter of a check and a result reads how often they were recorded. -/
theorem getD_healthChecks (events : List Event) (name : String) (healthy : Bool) :
    ((ofEvents events).healthChecks.get? [name, resultWord healthy]).getD 0 =
      events.count (.check name healthy) := by
  rw [healthChecks_ofEvents, Samples.getD_counted]
  exact count_filterMap Event.runKey?_inj rfl

/-! ## Last results -/

/-- The last run of a check had a result. -/
def LastResult (events : List Event) (name : String) (healthy : Bool) : Prop :=
  ∃ before after, events = before ++ .check name healthy :: after ∧ ∀ other, .check name other ∉ after

theorem lastResult_concat {e : Event} : LastResult (events ++ [e]) name healthy ↔
    e = .check name healthy ∨ (∀ other, e ≠ .check name other) ∧ LastResult events name healthy := by
  constructor
  · rintro ⟨before, after, parts, last⟩
    induction after using List.reverseRecOn with
    | nil => exact .inl (List.head_eq_of_cons_eq (List.append_inj' parts rfl).2)
    | append_singleton after e' _ =>
        rw [← List.cons_append, ← List.append_assoc] at parts
        obtain ⟨recorded, same⟩ := List.append_inj' parts rfl
        cases same
        have later : ∀ other, .check name other ∉ after ∧ .check name other ≠ e := by simpa using last
        exact .inr ⟨fun other => (later other).2.symm,
          before, after, recorded, fun other => (later other).1⟩
  · rintro (rfl | ⟨another, before, after, rfl, last⟩)
    · exact ⟨events, [], rfl, fun _ => List.not_mem_nil⟩
    · refine ⟨before, after ++ [e], by simp, fun other member => ?_⟩
      rcases List.mem_append.mp member with earlier | here
      · exact last other earlier
      · exact another other (List.mem_singleton.mp here).symm

theorem not_lastResult_nil : ¬ LastResult [] name healthy := by
  rintro ⟨before, after, parts, -⟩
  exact absurd parts (by simp)

theorem ordered_healthStatus (events : List Event) : (ofEvents events).healthStatus.Ordered := by
  induction events using List.reverseRecOn with
  | nil => exact Samples.ordered_nil
  | append_singleton events e ih =>
      rw [ofEvents_concat]
      cases e with
      | lease outcome => exact ih
      | check name healthy => exact Samples.ordered_update ih _ _

/-- **The samples of the latest results**: one for each check that has run, one if its last run passed and
zero if it failed. -/
theorem mem_healthStatus_iff : (key, v) ∈ (ofEvents events).healthStatus ↔
    ∃ name healthy, LastResult events name healthy ∧ key = [name] ∧ v = if healthy then 1 else 0 := by
  rw [Samples.mem_iff_get? (ordered_healthStatus events)]
  induction events using List.reverseRecOn with
  | nil => exact ⟨nofun, fun ⟨_, _, last, _⟩ => (not_lastResult_nil last).elim⟩
  | append_singleton events e ih =>
      rw [ofEvents_concat]
      simp only [lastResult_concat]
      cases e with
      | lease outcome =>
          have unchanged : ((ofEvents events).record (.lease outcome)).healthStatus =
              (ofEvents events).healthStatus := rfl
          rw [unchanged, ih]
          simp
      | check recorded result =>
          rw [record, recordCheck, Samples.get?_update (ordered_healthStatus events)]
          split
          · next same =>
              subst same
              constructor
              · intro latest
                exact ⟨recorded, result, .inl rfl, rfl, (Option.some.inj latest).symm⟩
              · rintro ⟨name, healthy, last, same, rfl⟩
                cases same
                rcases last with here | ⟨another, -⟩
                · cases here
                  rfl
                · exact absurd rfl (another result)
          · next other =>
              rw [ih]
              constructor
              · rintro ⟨name, healthy, last, rfl, rfl⟩
                refine ⟨name, healthy, .inr ⟨fun _ same => ?_, last⟩, rfl, rfl⟩
                cases same
                exact other rfl
              · rintro ⟨name, healthy, last, rfl, rfl⟩
                rcases last with here | ⟨-, last⟩
                · cases here
                  exact absurd rfl other
                · exact ⟨name, healthy, last, rfl, rfl⟩

/-- The gauge of a check reads its last result. -/
theorem get?_healthStatus_iff : (ofEvents events).healthStatus.get? [name] = some (if healthy then 1 else 0) ↔
    LastResult events name healthy := by
  rw [← Samples.mem_iff_get? (ordered_healthStatus events), mem_healthStatus_iff]
  constructor
  · rintro ⟨name', healthy', last, same, value⟩
    cases same
    have result : healthy = healthy' := by
      cases healthy <;> cases healthy' <;> simp at value ⊢
    exact result ▸ last
  · intro last
    exact ⟨name, healthy, last, rfl, rfl⟩

/-! ## Histories with the same samples -/

/-- Two histories agree in what is counted and in the last result of each check. -/
structure Agree (events others : List Event) : Prop where
  requests : ∀ outcome, events.count (.lease outcome) = others.count (.lease outcome)
  runs : ∀ name healthy, events.count (.check name healthy) = others.count (.check name healthy)
  last : ∀ name healthy, LastResult events name healthy ↔ LastResult others name healthy

/-- All families are in order. -/
structure Ordered (m : Metrics) : Prop extends m.ChecksOrdered where
  requests : m.leaseRequests.Ordered

theorem ordered_ofEvents (events : List Event) : (ofEvents events).Ordered where
  requests := leaseRequests_ofEvents events ▸ Samples.ordered_counted _
  runs := healthChecks_ofEvents events ▸ Samples.ordered_counted _
  status := ordered_healthStatus events

theorem mem_iff_of_count_eq {e : Event} (same : events.count e = others.count e) :
    e ∈ events ↔ e ∈ others := by
  rw [← List.count_pos_iff, same, List.count_pos_iff]

/-- **Histories leave the same samples exactly if they agree** in the counts and the last results. -/
theorem ofEvents_eq_iff : ofEvents events = ofEvents others ↔ Agree events others := by
  constructor
  · intro same
    refine ⟨fun outcome => ?_, fun name healthy => ?_, fun name healthy => ?_⟩
    · rw [← leaseCount_ofEvents, same, leaseCount_ofEvents]
    · rw [← getD_healthChecks, same, getD_healthChecks]
    · rw [← get?_healthStatus_iff, same, get?_healthStatus_iff]
  · intro agree
    have one := ordered_ofEvents events
    have other := ordered_ofEvents others
    have requests : (ofEvents events).leaseRequests = (ofEvents others).leaseRequests := by
      refine one.requests.ext other.requests fun key v => ?_
      simp only [mem_leaseRequests_iff, agree.requests, mem_iff_of_count_eq (agree.requests _)]
    have runs : (ofEvents events).healthChecks = (ofEvents others).healthChecks := by
      refine one.runs.ext other.runs fun key v => ?_
      simp only [mem_healthChecks_iff, agree.runs, mem_iff_of_count_eq (agree.runs _ _)]
    have status : (ofEvents events).healthStatus = (ofEvents others).healthStatus := by
      refine one.status.ext other.status fun key v => ?_
      simp only [mem_healthStatus_iff, agree.last]
    exact (Metrics.mk.injEq ..).mpr ⟨requests, runs, status⟩

end Metrics

end StartupGate
