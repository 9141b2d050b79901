import FilmFinder.Duration
import FilmFinder.Proofs.Number.Arithmetic

/-!
# Scaled durations

A longer duration is not fewer seconds, although seconds are rounded three times. So the product of
a duration and a factor that is not negative grows with the duration, and where the product of the
longer one exists, so does that of the shorter one.
-/
namespace FilmFinder

open Binary64

namespace Duration

/-- The magnitude of whole seconds. -/
def wholeUnits (whole : Nat) : Nat := roundedUnits (whole * unitsPerOne) 1

/-- The magnitude of a fraction of a second. -/
def fractionUnits (nanoseconds : Nat) : Nat :=
  roundedUnits (nanoseconds * unitsPerOne * unitsPerOne) (perSecond * unitsPerOne)

/-- The magnitude of the length in seconds. -/
def secondsUnits (duration : Duration) : Nat :=
  roundedUnits (wholeUnits (duration.nanoseconds / perSecond) +
    fractionUnits (duration.nanoseconds % perSecond)) 1

/-- The number of seconds of a duration has the magnitude of its seconds. -/
theorem seconds_magnitude (duration : Duration) :
    Magnitude false duration.seconds duration.secondsUnits := by
  have short : duration.nanoseconds % perSecond ≤ 2 * leadingBit :=
    Nat.le_of_lt (Nat.lt_trans (Nat.mod_lt _ (by decide)) (by decide))
  obtain ⟨rest, restNumber, restSigned, restUnits⟩ := exists_finite_of_few short
  have second : perSecond ≤ 2 * leadingBit := by decide
  obtain ⟨second, secondNumber, secondSigned, secondUnits⟩ := exists_finite_of_few second
  have positive : second.units ≠ 0 := by
    rw [secondUnits]
    decide +kernel
  have fraction := div_magnitude restSigned secondSigned positive
  rw [restUnits, secondUnits] at fraction
  unfold seconds
  rw [restNumber, secondNumber]
  exact (ofNat_magnitude _).add fraction

/-- A fraction of a second is less than a second after rounding too. -/
theorem fractionUnits_lt {nanoseconds : Nat} (fraction : nanoseconds < perSecond) :
    fractionUnits nanoseconds < unitsPerOne := by
  -- The largest magnitude below one second is not passed.
  have grid : OnGrid ((2 * leadingBit - 1) * gapAt 1021) := ⟨_, 1021, by decide, rfl⟩
  have one : unitsPerOne = 2 * leadingBit * gapAt 1021 := by decide +kernel
  have below : nanoseconds * unitsPerOne ≤ (2 * leadingBit - 1) * gapAt 1021 * perSecond := by
    have counts : nanoseconds * (2 * leadingBit) ≤ (2 * leadingBit - 1) * perSecond := by
      unfold perSecond at fraction
      change nanoseconds * 9007199254740992 ≤ 9007199254740991 * 1000000000
      omega
    have scaled := Nat.mul_le_mul_right (gapAt 1021) counts
    rw [one, ← Nat.mul_assoc, Nat.mul_right_comm _ (gapAt 1021)]
    exact scaled
  have bounded : fractionUnits nanoseconds ≤ (2 * leadingBit - 1) * gapAt 1021 := by
    refine grid.roundedUnits_le (Nat.mul_pos (by decide) (by decide +kernel)) ?_
    rw [← Nat.mul_assoc]
    exact Nat.mul_le_mul_right _ below
  refine Nat.lt_of_le_of_lt bounded ?_
  rw [one]
  exact Nat.mul_lt_mul_of_pos_right (by decide) (gapAt_pos 1021)

/-- Whole seconds keep their order. -/
theorem wholeUnits_mono {fewer more : Nat} (ordered : fewer ≤ more) :
    wholeUnits fewer ≤ wholeUnits more :=
  roundedUnits_mono (Nat.mul_le_mul_right _ ordered) 1

/-- Whole seconds and a fraction are not rounded past the next whole second. -/
theorem roundedUnits_le_next (whole : Nat) {nanoseconds : Nat}
    (fraction : nanoseconds < perSecond) :
    roundedUnits (wholeUnits whole + fractionUnits nanoseconds) 1 ≤ wholeUnits (whole + 1) := by
  have less := fractionUnits_lt fraction
  by_cases few : whole < 2 * leadingBit
  · have current : wholeUnits whole = whole * unitsPerOne := roundedUnits_of_few (Nat.le_of_lt few)
    have next : wholeUnits (whole + 1) = (whole + 1) * unitsPerOne := roundedUnits_of_few few
    rw [next]
    refine (onGrid_mul_unitsPerOne few).roundedUnits_le Nat.one_pos ?_
    rw [current, Nat.mul_one, Nat.succ_mul]
    omega
  · -- From here on the gap between whole seconds is two seconds at least.
    have grid : OnGrid (wholeUnits whole) := roundedUnits_onGrid _ _
    have reached : 2 * leadingBit * unitsPerOne ≤ wholeUnits whole := by
      refine (onGrid_mul_unitsPerOne (Nat.le_refl _)).le_roundedUnits Nat.one_pos ?_
      rw [Nat.mul_one]
      exact Nat.mul_le_mul_right _ (Nat.le_of_not_lt few)
    have wide : 2 * unitsPerOne ≤ gapAt (scaleOf (wholeUnits whole)) := by
      have scale : scaleOf (2 * leadingBit * unitsPerOne) = 1075 := by decide +kernel
      have coarser := gapAt_mono (scaleOf_mono reached)
      rw [scale] at coarser
      refine Nat.le_trans ?_ coarser
      decide +kernel
    have near : 2 * fractionUnits nanoseconds < 1 * gapAt (scaleOf (wholeUnits whole)) := by omega
    have kept := grid.roundedUnits_add near
    rw [Nat.mul_one] at kept
    rw [kept]
    exact wholeUnits_mono (Nat.le_succ whole)

/-- A longer duration is not fewer seconds. -/
theorem secondsUnits_mono {shorter longer : Duration}
    (ordered : shorter.nanoseconds ≤ longer.nanoseconds) :
    shorter.secondsUnits ≤ longer.secondsUnits := by
  have wholes : shorter.nanoseconds / perSecond ≤ longer.nanoseconds / perSecond :=
    Nat.div_le_div_right ordered
  rcases Nat.lt_or_eq_of_le wholes with apart | same
  · have grid : OnGrid (wholeUnits (longer.nanoseconds / perSecond)) := roundedUnits_onGrid _ _
    calc
      shorter.secondsUnits ≤ wholeUnits (shorter.nanoseconds / perSecond + 1) :=
        roundedUnits_le_next _ (Nat.mod_lt _ (by decide))
      _ ≤ wholeUnits (longer.nanoseconds / perSecond) := wholeUnits_mono apart
      _ ≤ longer.secondsUnits := grid.le_roundedUnits Nat.one_pos (by omega)
  · have rests : shorter.nanoseconds % perSecond ≤ longer.nanoseconds % perSecond := by
      unfold perSecond at same ⊢
      omega
    have fractions : fractionUnits (shorter.nanoseconds % perSecond) ≤
        fractionUnits (longer.nanoseconds % perSecond) :=
      roundedUnits_mono (Nat.mul_le_mul_right _ (Nat.mul_le_mul_right _ rests)) _
    unfold secondsUnits
    rw [same]
    exact roundedUnits_mono (Nat.add_le_add_left fractions _) 1

/-- Seconds that are not below zero are a duration, to the nearest nanosecond, when a 64-bit count
of seconds holds them. -/
theorem ofSeconds?_of_magnitude {negative : Bool} {number : Binary64} {units : Nat}
    (magnitude : Magnitude negative number units) (unsigned : negative = true → units = 0) :
    ofSeconds? number =
      if units < wordBound * unitsPerOne then .ok ⟨roundHalfEven (units * perSecond) unitsPerOne⟩
      else .error .tooBig := by
  cases magnitude with
  | infinite past =>
    have large : wordBound * unitsPerOne < finiteBound := by decide +kernel
    have positive : negative = false := by
      cases negative with
      | false => rfl
      | true =>
        have nothing := unsigned rfl
        omega
    rw [if_neg (by omega), positive]
    rfl
  | @finite value signed =>
    change (if _ then _ else if _ then _ else if _ then _ else _) = _
    by_cases nothing : value.significand = 0
    · have rounded : roundHalfEven 0 unitsPerOne = 0 := by decide +kernel
      rw [if_pos nothing, Finite.units_eq_zero_iff.mpr nothing, if_pos (by decide +kernel),
        Nat.zero_mul, rounded]
    · have positive : ¬ value.negative = true := fun turned =>
        nothing (Finite.units_eq_zero_iff.mp (unsigned (signed.symm.trans turned)))
      rw [if_neg nothing, if_neg positive]
      by_cases fits : value.units < wordBound * unitsPerOne
      · rw [if_neg (Nat.not_le.mpr fits), if_pos fits]
      · rw [if_pos (Nat.le_of_not_lt fits), if_neg fits]

/-- The magnitude of a number of seconds multiplied by a factor. -/
def productUnits (factor : Finite) (duration : Duration) : Nat :=
  roundedUnits (factor.units * duration.secondsUnits) unitsPerOne

/-- A longer duration has no smaller product. -/
theorem productUnits_mono (factor : Finite) {shorter longer : Duration}
    (ordered : shorter.nanoseconds ≤ longer.nanoseconds) :
    productUnits factor shorter ≤ productUnits factor longer :=
  roundedUnits_mono (Nat.mul_le_mul_left _ (secondsUnits_mono ordered)) unitsPerOne

/-- A duration has a product with a factor when its seconds are finite and a 64-bit count of seconds
holds the product. -/
structure HasProduct (factor : Finite) (duration : Duration) : Prop where
  /-- The seconds are finite. -/
  measured : duration.secondsUnits < finiteBound
  /-- The product is a count of seconds of 64 bits. -/
  held : productUnits factor duration < wordBound * unitsPerOne

/-- The seconds that are multiplied, when they are finite, make the rounded product. -/
theorem scaled?_of_measured {factor : Finite} (unsigned : 0 ≤ factor.signedUnits)
    {duration : Duration} (measured : duration.secondsUnits < finiteBound) :
    duration.scaled? (.finite factor) =
      if productUnits factor duration < wordBound * unitsPerOne then
        .ok ⟨roundHalfEven (productUnits factor duration * perSecond) unitsPerOne⟩
      else .error .tooBig := by
  obtain ⟨value, number, signed, units⟩ := (seconds_magnitude duration).exists_finite measured
  have product : Magnitude factor.negative ((Binary64.finite factor).mul (.finite value))
      (productUnits factor duration) := by
    have rounded := mul_magnitude factor value
    rw [signed, units, Bool.xor_false] at rounded
    exact rounded
  unfold scaled?
  rw [number]
  refine ofSeconds?_of_magnitude product fun turned => ?_
  unfold productUnits
  rw [Finite.units_eq_zero_of_negative unsigned turned, Nat.zero_mul]
  decide +kernel

/-- A duration of infinitely many seconds has no product. -/
theorem scaled?_of_infinite {factor : Finite} (unsigned : 0 ≤ factor.signedUnits)
    {duration : Duration} (past : finiteBound ≤ duration.secondsUnits) :
    duration.scaled? (.finite factor) = .error .tooBig := by
  unfold scaled?
  rw [(seconds_magnitude duration).eq_infinite past]
  change ofSeconds? (if _ then _ else _) = _
  by_cases nothing : factor.significand = 0
  · rw [if_pos nothing]
    rfl
  · have positive : factor.negative = false := by
      cases turned : factor.negative with
      | false => rfl
      | true =>
        have zero := Finite.units_eq_zero_of_negative unsigned turned
        exact absurd (Finite.units_eq_zero_iff.mp zero) nothing
    rw [if_neg nothing, positive]
    rfl

/-- A product that exists is the rounded one. -/
theorem HasProduct.scaled?_eq {factor : Finite} (unsigned : 0 ≤ factor.signedUnits)
    {duration : Duration} (known : duration.HasProduct factor) :
    duration.scaled? (.finite factor) =
      .ok ⟨roundHalfEven (productUnits factor duration * perSecond) unitsPerOne⟩ :=
  (scaled?_of_measured unsigned known.measured).trans (if_pos known.held)

/-- A duration that has no product is too long. -/
theorem scaled?_of_not_hasProduct {factor : Finite} (unsigned : 0 ≤ factor.signedUnits)
    {duration : Duration} (unknown : ¬ duration.HasProduct factor) :
    duration.scaled? (.finite factor) = .error .tooBig := by
  by_cases measured : duration.secondsUnits < finiteBound
  · exact (scaled?_of_measured unsigned measured).trans
      (if_neg fun held => unknown ⟨measured, held⟩)
  · exact scaled?_of_infinite unsigned (Nat.le_of_not_lt measured)

/-- Where the product of the longer of two durations exists, so does that of the shorter one, and it
is no longer. -/
theorem scaled?_mono {factor : Finite} (unsigned : 0 ≤ factor.signedUnits)
    {shorter longer product : Duration} (ordered : shorter.nanoseconds ≤ longer.nanoseconds)
    (known : longer.scaled? (.finite factor) = .ok product) :
    ∃ smaller, shorter.scaled? (.finite factor) = .ok smaller ∧
      smaller.nanoseconds ≤ product.nanoseconds := by
  have seconds := secondsUnits_mono ordered
  have products := productUnits_mono factor ordered
  by_cases present : longer.HasProduct factor
  · have smaller : shorter.HasProduct factor :=
      ⟨Nat.lt_of_le_of_lt seconds present.measured, Nat.lt_of_le_of_lt products present.held⟩
    have rounded := roundHalfEven_mono (Nat.mul_le_mul_right perSecond products) unitsPerOne
    rw [present.scaled?_eq unsigned] at known
    rw [← Except.ok.inj known]
    refine ⟨_, smaller.scaled?_eq unsigned, ?_⟩
    dsimp only
    exact rounded
  · rw [scaled?_of_not_hasProduct unsigned present] at known
    contradiction

end Duration

end FilmFinder
