/-
# StartupGate.Proofs.Health.Pacing -- checks and requests are a second apart

Where every wait lasts a second, so does the time from each run of a check to the next, and from each
request of a client to the next: the wait begins when the run or the request has ended.

* `Evaluator.Paced`: the runs of a loop so far, and the next one, start a second apart; a loop that goes
  on or ends keeps this.
* `Evaluators.Reaches.paced`: so do the runs of all loops, in whatever order these go on.
* `LockClient.apart_waitFrom`: so do the requests of a client, whatever comes of them.
-/
import StartupGate.LockClient
import StartupGate.Proofs.Health.Interleaving

set_option autoImplicit false

namespace StartupGate

/-! ## Instants a second apart -/

/-- A second, in whole milliseconds. -/
def Millis.second : Millis := 1000

/-- Each of the instants lies at least a second after the one before. -/
def SecondsApart (instants : List Millis) : Prop :=
  instants.IsChain fun earlier later => earlier + Millis.second ≤ later

instance (instants : List Millis) : Decidable (SecondsApart instants) :=
  inferInstanceAs (Decidable (instants.IsChain _))

namespace SecondsApart

variable {instants : List Millis}

theorem singleton (t : Millis) : SecondsApart [t] := List.isChain_singleton t

theorem append {last next : Millis} (apart : SecondsApart (instants ++ [last]))
    (later : last + Millis.second ≤ next) : SecondsApart (instants ++ [last] ++ [next]) := by
  refine List.isChain_append.mpr ⟨apart, List.isChain_singleton next, ?_⟩
  simpa using later

end SecondsApart

/-- A sleep for at least a second lasts that long. -/
theorem Millis.second_le_wake {d : Duration} (long : Duration.nanosPerSecond ≤ d.nanos) (now : Millis) :
    now + Millis.second ≤ Millis.wake now d := by
  refine Nat.add_le_add_left ?_ now
  rw [Duration.millisUp_asSleep, longestSleep_eq]
  simp only [Millis.second, Duration.millisUp, Duration.nanosPerMilli, Duration.nanosPerSecond] at *
  omega

/-- A whole number of seconds that is not zero is at least one. -/
theorem Duration.nanosPerSecond_le_ofSeconds {n : Nat} (some' : n ≠ 0) :
    nanosPerSecond ≤ (ofSeconds n).nanos :=
  Nat.le_mul_of_pos_left nanosPerSecond (Nat.pos_of_ne_zero some')

/-! ## The runs of a loop -/

/-- Both waits of a check last at least a second. -/
structure Periods.SecondsLong (p : Periods) : Prop where
  onPass : Duration.nanosPerSecond ≤ p.onPass.nanos
  onFail : Duration.nanosPerSecond ≤ p.onFail.nanos

theorem Periods.SecondsLong.after {p : Periods} (long : p.SecondsLong) (healthy : Bool) :
    Duration.nanosPerSecond ≤ (p.after healthy).nanos := by
  cases healthy
  · exact long.onFail
  · exact long.onPass

namespace Evaluator

variable {e : Evaluator}

/-- The runs of the loop so far have started a second apart, and the next one will. -/
def Paced (e : Evaluator) : Prop :=
  match e.phase with
  | .asleep wakes => e.periods.SecondsLong ∧ SecondsApart (e.starts ++ [wakes])
  | .checking ends _ =>
      e.periods.SecondsLong ∧
        ∃ before last, e.starts = before ++ [last] ∧ SecondsApart (before ++ [last]) ∧ last ≤ ends
  | .stopped _ => SecondsApart e.starts
  | .off => SecondsApart e.starts

theorem Paced.apart (paced : e.Paced) : SecondsApart e.starts := by
  obtain ⟨periods, behaviour, signal, starts, phase⟩ := e
  cases phase with
  | asleep wakes => exact paced.2.left_of_append
  | checking ends healthy =>
      obtain ⟨-, before, last, rfl, apart, -⟩ := paced
      exact apart
  | stopped since => exact paced
  | off => exact paced

/-- A run starts when the sleep is over, and the sleep begins when the run before it has ended. -/
theorem Paced.next (paced : e.Paced) : e.next.Paced := by
  obtain ⟨periods, behaviour, signal, starts, phase⟩ := e
  cases phase with
  | asleep wakes =>
      obtain ⟨long, apart⟩ := paced
      exact ⟨long, starts, wakes, rfl, apart, Nat.le_add_right _ _⟩
  | checking ends healthy =>
      obtain ⟨long, before, last, rfl, apart, order⟩ := paced
      have wakes : last + Millis.second ≤ Millis.wake ends (periods.after healthy) :=
        Nat.le_trans (Nat.add_le_add_right order _) (Millis.second_le_wake (long.after healthy) ends)
      exact ⟨long, apart.append wakes⟩
  | stopped since => exact paced
  | off => exact paced

theorem Paced.stop (paced : e.Paced) (now : Millis) : (e.stop now).Paced := by
  have apart := paced.apart
  obtain ⟨periods, behaviour, signal, starts, phase⟩ := e
  cases phase <;> exact apart

theorem paced_new (name : String) {periods : Periods} (long : periods.SecondsLong)
    (behaviour : Behaviour) : (new name periods behaviour).Paced :=
  ⟨long, SecondsApart.singleton 0⟩

theorem paced_disabled (name : String) : (disabled name).Paced := List.isChain_nil

end Evaluator

/-- **The runs of every loop stay a second apart**, in whatever order the loops go on. -/
theorem Evaluators.Reaches.paced {s last : Evaluators} {published : List (Nat × Bool)}
    (reaches : Reaches s published last) (paced : ∀ e ∈ s.loops, e.Paced) : ∀ e ∈ last.loops, e.Paced :=
  reaches.forall_loops (fun _ kept => kept.next) (fun _ now kept => kept.stop now) paced

/-! ## The requests of a client -/

namespace LockClient

variable {period : Duration} {polls : Nat → Poll} {shutdown : Option Millis}

/-- A wait sends a request now, if any, and its requests are a second apart. -/
theorem apart_waitFrom (long : Duration.nanosPerSecond ≤ period.nanos) (fuel k : Nat) (now : Millis) :
    (∀ first ∈ (waitFrom period polls shutdown fuel k now).requests.head?, first = now) ∧
      SecondsApart (waitFrom period polls shutdown fuel k now).requests := by
  induction fuel generalizing k now with
  | zero => exact ⟨nofun, List.isChain_nil⟩
  | succ fuel ih =>
      unfold waitFrom
      refine ⟨fun first same => (Option.some.inj same).symm, ?_⟩
      have alone := SecondsApart.singleton now
      cases polls k with
      | hangs => cases shutdown <;> exact alone
      | ends result takes =>
          simp only
          split
          · exact alone
          · split
            · exact alone
            · split
              · exact alone
              · obtain ⟨begins, apart⟩ := ih (k + 1) (Millis.wake (now + takes) period)
                refine List.isChain_cons.mpr ⟨fun later same => ?_, apart⟩
                rw [begins later same]
                have ended : now ≤ now + takes := Nat.le_add_right now takes
                exact Nat.le_trans (Nat.add_le_add_right ended _) (Millis.second_le_wake long _)

/-- **The requests of a client are a second apart**, whatever comes of them and whenever the shutdown
comes. -/
theorem apart_wait (long : Duration.nanosPerSecond ≤ period.nanos) (fuel : Nat) :
    SecondsApart (wait period polls shutdown fuel).requests :=
  (apart_waitFrom long fuel 0 0).2

end LockClient

end StartupGate
