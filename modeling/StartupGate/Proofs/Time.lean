/-
# StartupGate.Proofs.Time -- the length of sleeps and of stretched spans

* A sleep lasts its span rounded up to whole milliseconds, and thirty years at most
  (`Duration.millisUp_asSleep`).
* A span stretched by a factor is hardly longer than the exact product: the five roundings on the way
  through doubles add at most one part in `2 ^ 50`, and the last one less than a nanosecond
  (`Duration.nanos_scale_le`).
* It is a span if the exact product is short of `2 ^ 64` seconds (`Duration.exists_scale_of_product`), and
  none from there on (`Duration.scale_of_atLeast`).
-/
import StartupGate.Proofs.Number.Power
import StartupGate.Time

set_option autoImplicit false

namespace StartupGate

/-! ## Sleeps -/

/-- The longest sleep of a timer, in whole milliseconds. -/
def longestSleep : Millis := farFuture.millisUp

theorem longestSleep_eq : longestSleep = 946080000000 := by decide

namespace Duration

/-- A sleep lasts its span in whole milliseconds, up to the longest sleep. -/
theorem millisUp_asSleep (d : Duration) : d.asSleep.millisUp = min d.millisUp longestSleep := by
  have nanos : farFuture.nanos = 946080000000 * 1000000 := by decide
  rw [longestSleep_eq]
  simp only [asSleep, millisUp, nanosPerMilli, nanos]
  omega

theorem millisUp_ofMillis (ms : Nat) : (ofMillis ms).millisUp = ms := by
  simp only [millisUp, ofMillis, nanosPerMilli]
  omega

theorem millisUp_asSleep_ofMillis (ms : Nat) :
    (ofMillis ms).asSleep.millisUp = min ms longestSleep := by
  rw [millisUp_asSleep, millisUp_ofMillis]

theorem one_le_millisUp_asSleep {d : Duration} (positive : 0 < d.nanos) :
    1 ≤ d.asSleep.millisUp := by
  rw [millisUp_asSleep, longestSleep_eq]
  simp only [millisUp, nanosPerMilli]
  omega

theorem millisUp_mono {d e : Duration} (order : d.nanos ≤ e.nanos) : d.millisUp ≤ e.millisUp :=
  Nat.div_le_div_right (Nat.add_le_add_right order _)

/-- Rounding up to a millisecond adds less than one. -/
theorem millisUp_mul_lt (d : Duration) : d.millisUp * nanosPerMilli < d.nanos + nanosPerMilli := by
  simp only [millisUp, nanosPerMilli]
  omega

/-! ## Stretched spans -/

open Binary64 (size slack halfUnit halfUnit_le)

theorem cast_nanosPerSecond : (nanosPerSecond : ℚ) = 10 ^ 9 := by norm_num [nanosPerSecond]

theorem ofNat_nanosPerSecond : Binary64.ofNat nanosPerSecond =
    .finite false (nanosPerSecond * Binary64.unitsPerOne) := by decide +kernel

theorem size_nanosPerSecond : (Binary64.ofNat nanosPerSecond).size = 10 ^ 9 := by
  rw [ofNat_nanosPerSecond, size, Nat.cast_mul, mul_div_cancel_right₀ _ Binary64.cast_unitsPerOne_pos.ne',
    cast_nanosPerSecond]

/-- The seconds of a span as a double are hardly more than they are. -/
theorem size_toBinary64_le (d : Duration) :
    d.toBinary64.size ≤ slack ^ 4 * (d.nanos / 10 ^ 9) := by
  rcases Nat.eq_zero_or_pos d.nanos with zero | positive
  · obtain ⟨nanos⟩ := d
    obtain rfl : nanos = 0 := zero
    have nothing : toBinary64 ⟨0⟩ = .finite false 0 := by decide +kernel
    rw [nothing, Binary64.size_zero]
    exact mul_nonneg (pow_pos Binary64.slack_pos 4).le (div_nonneg (Nat.cast_nonneg _) (by norm_num))
  · have whole := Binary64.size_ofNat_le d.seconds
    have fraction := Binary64.size_ofNat_le d.subsecond
    have quotient := Binary64.size_div_le (.ofNat d.subsecond) (.ofNat nanosPerSecond)
    have sum := Binary64.size_addSizes_le (.ofNat d.seconds)
      ((Binary64.ofNat d.subsecond).div (.ofNat nanosPerSecond))
    have parts : (d.seconds : ℚ) + d.subsecond / 10 ^ 9 = d.nanos / 10 ^ 9 := by
      have division : nanosPerSecond * d.seconds + d.subsecond = d.nanos :=
        Nat.div_add_mod d.nanos nanosPerSecond
      have cast : (nanosPerSecond : ℚ) * d.seconds + d.subsecond = d.nanos := by
        exact_mod_cast division
      rw [cast_nanosPerSecond] at cast
      linarith
    have one : (1 : ℚ) / 10 ^ 9 ≤ d.nanos / 10 ^ 9 := by
      have cast : (1 : ℚ) ≤ d.nanos := by exact_mod_cast positive
      linarith
    have half := halfUnit_le
    have seconds : (0 : ℚ) ≤ d.seconds := Nat.cast_nonneg _
    have subsecond : (0 : ℚ) ≤ d.subsecond := Nat.cast_nonneg _
    rw [size_nanosPerSecond] at quotient
    rw [toBinary64]
    -- three roundings, and what they add of half units is less than a fourth
    rw [slack] at *
    linarith

-- so that no tactic computes them
attribute [local irreducible] Binary64.unitsPerOne Binary64.unitsOverflow

/-- A number of seconds as a span is rounded to the nearest nanosecond. -/
theorem nanos_ofBinary64_le {x : Binary64} {d : Duration} (ok : ofBinary64 x = .ok d) :
    (d.nanos : ℚ) ≤ x.size * 10 ^ 9 + 1 / 2 := by
  cases x with
  | nan => cases ok
  | infinite negative => cases ok
  | finite negative u =>
      rw [ofBinary64] at ok
      split at ok
      · cases ok
      · split at ok
        · cases ok
        · cases ok
          have unit := Binary64.cast_unitsPerOne_pos
          have bound := Binary64.divTiesEven_mul_le (u * nanosPerSecond) Binary64.unitsPerOne
          generalize Binary64.divTiesEven (u * nanosPerSecond) Binary64.unitsPerOne = q at bound
          have cast : 2 * ((q : ℚ) * Binary64.unitsPerOne) ≤
              2 * (u * nanosPerSecond) + Binary64.unitsPerOne := by exact_mod_cast bound
          rw [cast_nanosPerSecond] at cast
          have split : size (.finite negative u) * 10 ^ 9 + 1 / 2 =
              (2 * (u * 10 ^ 9) + Binary64.unitsPerOne) / (2 * Binary64.unitsPerOne) := by
            rw [size]
            field_simp
          rw [split, le_div_iff₀ (by linarith)]
          linarith

/-- **A stretched span is hardly longer than the exact product.** -/
theorem nanos_scale_le {d e : Duration} {factor : Binary64} (ok : d.scale factor = .ok e) :
    (e.nanos : ℚ) ≤ (1 + 1 / 2 ^ 50) * (d.nanos * factor.size) + 1 := by
  have rounded := nanos_ofBinary64_le ok
  have product := Binary64.size_mul_le factor d.toBinary64
  have factors : factor.size * d.toBinary64.size ≤
      factor.size * (slack ^ 4 * (d.nanos / 10 ^ 9)) :=
    mul_le_mul_of_nonneg_left (size_toBinary64_le d) factor.size_nonneg
  have half := halfUnit_le
  have exact : 0 ≤ d.nanos * factor.size := mul_nonneg (Nat.cast_nonneg _) factor.size_nonneg
  have power : slack ^ 5 ≤ 1 + 1 / 2 ^ 50 := by norm_num [slack]
  calc (e.nanos : ℚ)
      ≤ (slack * (factor.size * d.toBinary64.size) + halfUnit) * 10 ^ 9 + 1 / 2 := by linarith
    _ ≤ (slack * (factor.size * (slack ^ 4 * (d.nanos / 10 ^ 9))) + halfUnit) * 10 ^ 9 + 1 / 2 := by
        have := mul_le_mul_of_nonneg_left factors Binary64.slack_pos.le
        linarith
    _ = slack ^ 5 * (d.nanos * factor.size) + (halfUnit * 10 ^ 9 + 1 / 2) := by ring
    _ ≤ (1 + 1 / 2 ^ 50) * (d.nanos * factor.size) + 1 := by
        have := mul_le_mul_of_nonneg_right power exact
        linarith

/-! ## Which stretched spans there are -/

/-- A span that is not too long is a finite number of seconds. -/
theorem unsigned_toBinary64 {d : Duration} (short : (d.nanos : ℚ) ≤ 2 ^ 64 * 10 ^ 9) :
    d.toBinary64.Unsigned := by
  have overflow := Binary64.pow_le_sizeOverflow
  have half := halfUnit_le
  have parts : (nanosPerSecond * d.seconds + d.subsecond : ℚ) = d.nanos := by
    exact_mod_cast Nat.div_add_mod d.nanos nanosPerSecond
  rw [cast_nanosPerSecond] at parts
  have seconds : (d.seconds : ℚ) ≤ 2 ^ 64 := by
    have rest : (0 : ℚ) ≤ d.subsecond := Nat.cast_nonneg _
    linarith
  have subsecond : (d.subsecond : ℚ) ≤ 10 ^ 9 := by
    rw [← cast_nanosPerSecond]
    exact_mod_cast (Nat.mod_lt d.nanos (by decide)).le
  have whole := Binary64.size_ofNat_le d.seconds
  have rest := Binary64.size_ofNat_le d.subsecond
  have quotient := Binary64.size_div_le (.ofNat d.subsecond) (.ofNat nanosPerSecond)
  rw [size_nanosPerSecond] at quotient
  rw [slack] at whole rest quotient
  refine (Binary64.unsigned_ofNat ?_).addSizes
    ((Binary64.unsigned_ofNat ?_).div ⟨_, ofNat_nanosPerSecond⟩ ?_ ?_) ?_
  · rw [slack]
    linarith
  · rw [slack]
    linarith
  · rw [size_nanosPerSecond]
    norm_num
  · rw [size_nanosPerSecond, slack]
    linarith
  · rw [slack]
    linarith

/-- A product below `2 ^ 64` seconds is a span. -/
theorem exists_scale_of_small {d : Duration} {factor : Binary64} (left : factor.Unsigned)
    (right : d.toBinary64.Unsigned) (small : slack * (factor.size * d.toBinary64.size) + halfUnit < 2 ^ 64) :
    ∃ e, d.scale factor = .ok e := by
  have overflow : (2 : ℚ) ^ 64 ≤ Binary64.sizeOverflow :=
    le_trans (by norm_num) Binary64.pow_le_sizeOverflow
  obtain ⟨w, product⟩ := left.mul right (small.trans_le overflow)
  have bound := (Binary64.size_mul_le factor d.toBinary64).trans_lt small
  have below : w < secondsOverflow * Binary64.unitsPerOne := by
    rw [product, size, div_lt_iff₀ Binary64.cast_unitsPerOne_pos] at bound
    have limit : (secondsOverflow : ℚ) = 2 ^ 64 := by norm_num [secondsOverflow]
    rw [← limit] at bound
    exact_mod_cast bound
  rw [scale, product, ofBinary64, if_neg (by simp), if_neg (Nat.not_le.mpr below)]
  exact ⟨_, rfl⟩

/-- **A span stretched by hardly more than a factor** is a span if the exact product is short of `2 ^ 64`
seconds by one part in `2 ^ 19`. -/
theorem exists_scale_of_product {d : Duration} {factor : Binary64} {exact : ℚ} (left : factor.Unsigned)
    (hardly : factor.size ≤ (1 + 1 / 2 ^ 20) * exact) (large : 1 ≤ exact)
    (short : d.nanos * exact ≤ (2 ^ 64 - 2 ^ 45) * 10 ^ 9) : ∃ e, d.scale factor = .ok e := by
  have nanos : (0 : ℚ) ≤ d.nanos := Nat.cast_nonneg _
  have own : (d.nanos : ℚ) ≤ 2 ^ 64 * 10 ^ 9 := by
    have least := mul_le_mul_of_nonneg_left large nanos
    linarith
  refine exists_scale_of_small left (unsigned_toBinary64 own) ?_
  have half := halfUnit_le
  calc slack * (factor.size * d.toBinary64.size) + halfUnit
      ≤ slack * ((1 + 1 / 2 ^ 20) * exact * (slack ^ 4 * (d.nanos / 10 ^ 9))) + halfUnit := by
        have nonneg : 0 ≤ (1 + 1 / 2 ^ 20) * exact := mul_nonneg (by norm_num) (zero_le_one.trans large)
        have product := mul_le_mul hardly (size_toBinary64_le d) (Binary64.size_nonneg _) nonneg
        have scaled := mul_le_mul_of_nonneg_left product Binary64.slack_pos.le
        linarith
    _ = slack ^ 5 * (1 + 1 / 2 ^ 20) / 10 ^ 9 * (d.nanos * exact) + halfUnit := by ring
    _ < 2 ^ 64 := by
        have factors : 0 ≤ slack ^ 5 * (1 + 1 / 2 ^ 20) / 10 ^ 9 := by norm_num [slack]
        have product := mul_le_mul_of_nonneg_left short factors
        have limit : slack ^ 5 * (1 + 1 / 2 ^ 20) / 10 ^ 9 * ((2 ^ 64 - 2 ^ 45) * 10 ^ 9) + 1 / 2 ^ 100 <
            2 ^ 64 := by norm_num [slack]
        linarith

/-- A share of at most the whole of a span that is not too long is a span. -/
theorem exists_scale {d : Duration} {share seconds : Nat}
    (whole : d.toBinary64 = .finite false seconds) (atMost : share ≤ Binary64.unitsPerOne)
    (short : seconds ≤ 2 ^ 62 * Binary64.unitsPerOne) :
    ∃ e, d.scale (.finite false share) = .ok e := by
  have unit := Binary64.cast_unitsPerOne_pos
  refine exists_scale_of_small ⟨share, rfl⟩ ⟨seconds, whole⟩ ?_
  have part : size (.finite false share) ≤ 1 := div_le_one_of_le₀ (Nat.cast_le.mpr atMost) unit.le
  have span : d.toBinary64.size ≤ 2 ^ 62 := by
    rw [whole, size, div_le_iff₀ unit]
    exact_mod_cast short
  have product : size (.finite false share) * d.toBinary64.size ≤ 1 * 2 ^ 62 :=
    mul_le_mul part span (Binary64.size_nonneg _) zero_le_one
  have half := halfUnit_le
  rw [slack]
  linarith

/-- The seconds of a span are at least the power of two that its whole seconds are. -/
theorem atLeast_toBinary64 {d : Duration} {m : Nat} (long : 2 ^ m ≤ d.seconds) :
    d.toBinary64.AtLeast m := by
  refine (Binary64.atLeast_ofNat long).addSizes ?_
  rw [ofNat_nanosPerSecond]
  exact Binary64.div_ne_nan (Binary64.ofQuotient_ne_nan _ _ _)
    (Nat.mul_ne_zero (by decide) Binary64.unitsPerOne_pos.ne')

/-- **A product of `2 ^ 64` seconds or more is no span.** -/
theorem scale_of_atLeast {d : Duration} {factor : Binary64} {i j : Nat} (left : factor.AtLeast i)
    (right : d.toBinary64.AtLeast j) (large : 64 ≤ i + j) :
    d.scale factor = .error .tooLargeOrNotANumber := by
  rw [scale]
  rcases left.mul right with overflow | ⟨u, product, units⟩
  · rw [overflow]
    rfl
  · have limit : secondsOverflow * Binary64.unitsPerOne ≤ u :=
      (Nat.mul_le_mul_right _ (Nat.pow_le_pow_right Nat.two_pos large)).trans units
    rw [product, ofBinary64, if_neg (by simp), if_pos limit]

/-- A span stretched by a factor that is not negative is too long if it is no span. -/
theorem eq_tooLarge_of_scale {d : Duration} {factor : Binary64} {cause : SecondsError}
    (nonnegative : factor.isNegative = false) (fails : d.scale factor = .error cause) :
    cause = .tooLargeOrNotANumber := by
  have product : (factor.mul d.toBinary64).isNegative = false :=
    Binary64.isNegative_mul nonnegative (Binary64.isNegative_addSizes _ _)
  rw [scale] at fails
  generalize factor.mul d.toBinary64 = x at product fails
  cases x with
  | nan => cases fails; rfl
  | infinite negative =>
      cases product
      cases fails
      rfl
  | finite negative u =>
      cases product
      rw [ofBinary64, if_neg (by simp)] at fails
      split at fails
      · cases fails
        rfl
      · cases fails

end Duration

end StartupGate
