import FilmFinder.Number.Shortest

/-!
# Rounding intervals

A decimal magnitude rounds to one finite number at most: the intervals of two numbers that
differ share no magnitude, since an end that two intervals have in common belongs to the even
significand alone. The shortest decimal of a number lies in the number's interval, so the
decimal determines the number up to its sign.
-/
namespace FilmFinder

namespace Binary64.Finite

/-- The gap between a number and the next larger magnitude. -/
def gap (value : Finite) : Nat := Nat.pow 2 value.scale

/-- Twice the gap between a number and the next smaller magnitude. -/
def gapBelow (value : Finite) : Nat :=
  if value.significand = leadingBit ∧ value.scale ≠ 0 then value.gap else 2 * value.gap

/-- A gap is never empty. -/
theorem gap_pos (value : Finite) : 0 < value.gap := Nat.two_pow_pos value.scale

/-- A magnitude counts its gaps. -/
theorem units_eq (value : Finite) : value.units = value.significand * value.gap := rfl

/-- A number that is scaled has a significand of full length. -/
theorem full_of_scaled {value : Finite} (scaled : value.scale ≠ 0) :
    4503599627370496 ≤ value.significand :=
  value.canonical.2.2.resolve_right scaled

/-- The gap at a larger scale is at least twice as wide. -/
theorem gap_double {left right : Finite} (finer : left.scale < right.scale) :
    ∃ half, right.gap = 2 * half ∧ left.gap ≤ half := by
  obtain ⟨before, scale⟩ : ∃ before, right.scale = before + 1 := ⟨right.scale - 1, by omega⟩
  refine ⟨Nat.pow 2 before, ?_, ?_⟩
  · rw [gap, scale]
    exact Nat.pow_succ'
  · exact Nat.pow_le_pow_right (by decide) (by omega)

/-- A number at a finer scale has the smaller magnitude. -/
theorem units_lt_of_scale_lt {left right : Finite} (finer : left.scale < right.scale) :
    left.units < right.units := by
  obtain ⟨half, rightGap, leftGap⟩ := gap_double finer
  have leftBound := left.canonical.1
  have rightBound : leadingBit ≤ right.significand := full_of_scaled (by omega)
  have positive := left.gap_pos
  rw [units_eq, units_eq, rightGap]
  calc
    left.significand * left.gap < 2 * leadingBit * left.gap :=
      Nat.mul_lt_mul_of_pos_right leftBound positive
    _ ≤ 2 * leadingBit * half := Nat.mul_le_mul_left _ leftGap
    _ = leadingBit * (2 * half) := by ac_rfl
    _ ≤ right.significand * (2 * half) := Nat.mul_le_mul_right _ rightBound

/-- A magnitude has one significand and one scale. -/
theorem eq_of_units_eq {left right : Finite} (sameSign : left.negative = right.negative)
    (same : left.units = right.units) : left = right := by
  have scales : left.scale = right.scale := by
    rcases Nat.lt_trichotomy left.scale right.scale with finer | equal | coarser
    · exact absurd same (Nat.ne_of_lt (units_lt_of_scale_lt finer))
    · exact equal
    · exact absurd same (Nat.ne_of_gt (units_lt_of_scale_lt coarser))
  have significands : left.significand = right.significand := by
    rw [units_eq, units_eq, gap, gap, scales] at same
    exact Nat.eq_of_mul_eq_mul_right right.gap_pos same
  cases left
  cases right
  simp_all

/-- The halfway points between two magnitudes keep their order, and where they meet one of the
two significands is odd. All are measured in quarters of a unit. -/
theorem quarters_separated {left right : Finite} (smaller : left.units < right.units) :
    4 * left.units + 2 * left.gap + right.gapBelow ≤ 4 * right.units ∧
      (4 * left.units + 2 * left.gap + right.gapBelow = 4 * right.units →
        left.significand % 2 = 1 ∨ right.significand % 2 = 1) := by
  have positive := left.gap_pos
  rw [units_eq, units_eq] at smaller ⊢
  rcases Nat.lt_trichotomy left.scale right.scale with finer | equal | coarser
  · obtain ⟨half, rightGap, leftGap⟩ := gap_double finer
    have leftBound : left.significand < 9007199254740992 := left.canonical.1
    have scaled : right.scale ≠ 0 := by omega
    have rightBound := full_of_scaled scaled
    have last : left.significand * left.gap ≤ 9007199254740991 * left.gap :=
      Nat.mul_le_mul_right _ (by omega)
    by_cases power : right.significand = 4503599627370496
    · have atPower : right.gapBelow = right.gap := if_pos ⟨power, scaled⟩
      rw [atPower, rightGap, power]
      refine ⟨by omega, fun meet => .inl ?_⟩
      by_cases odd : left.significand = 9007199254740991
      · omega
      · have before : left.significand * left.gap ≤ 9007199254740990 * left.gap :=
          Nat.mul_le_mul_right _ (by omega)
        omega
    · have pastPower : right.gapBelow = 2 * right.gap := if_neg fun both => power both.1
      have after : 4503599627370497 * (2 * half) ≤ right.significand * (2 * half) :=
        Nat.mul_le_mul_right _ (by omega)
      rw [pastPower, rightGap]
      omega
  · have gaps : left.gap = right.gap := by rw [gap, gap, equal]
    rw [gaps] at smaller positive ⊢
    have ordered : left.significand < right.significand := Nat.lt_of_mul_lt_mul_right smaller
    have next : (left.significand + 1) * right.gap ≤ right.significand * right.gap :=
      Nat.mul_le_mul_right _ ordered
    rw [Nat.succ_mul] at next
    have belowBound : right.gapBelow ≤ 2 * right.gap := by
      unfold gapBelow
      split <;> omega
    refine ⟨by omega, fun meet => ?_⟩
    have adjacent : right.significand * right.gap = (left.significand + 1) * right.gap := by
      rw [Nat.succ_mul]
      omega
    have := Nat.eq_of_mul_eq_mul_right positive adjacent
    omega
  · exact absurd smaller (Nat.not_lt.mpr (Nat.le_of_lt (units_lt_of_scale_lt coarser)))

end Binary64.Finite

namespace Decimal

namespace Interval

/-- A magnitude that an interval holds lies between its ends, and off them when it is open. -/
theorem bounds_of_holds {interval : Interval} {magnitude : Nat}
    (held : interval.holds magnitude = true) :
    interval.lower ≤ magnitude ∧ magnitude ≤ interval.upper ∧
      (interval.closed = false → interval.lower < magnitude ∧ magnitude < interval.upper) := by
  unfold holds at held
  cases closed : interval.closed with
  | true =>
    simp only [closed, ↓reduceIte, Bool.and_eq_true, decide_eq_true_eq] at held
    exact ⟨held.1, held.2, fun no => by contradiction⟩
  | false =>
    simp only [closed, Bool.false_eq_true, ↓reduceIte, Bool.and_eq_true, decide_eq_true_eq] at held
    exact ⟨Nat.le_of_lt held.1, Nat.le_of_lt held.2, fun _ => held⟩

/-- A power of five is not zero. -/
theorem five_pow_pos : ∀ exponent, 0 < Nat.pow 5 exponent :=
  fun _ => Nat.pow_pos (Nat.succ_pos 4)

/-- All intervals count in one unit: their middles and ends are quarters of magnitudes. -/
theorem exists_unit : ∃ unit : Nat, 0 < unit ∧ ∀ value : Binary64.Finite,
    (Interval.of value).centre = 4 * value.units * unit ∧
      (Interval.of value).lower = (4 * value.units - value.gapBelow) * unit ∧
      (Interval.of value).upper = (4 * value.units + 2 * value.gap) * unit :=
  ⟨_, five_pow_pos 1074, fun _ => ⟨rfl, rfl, rfl⟩⟩

/-- The interval of an odd significand is open. -/
theorem closed_of {value : Binary64.Finite} (odd : value.significand % 2 = 1) :
    (Interval.of value).closed = false := by
  have even : (value.significand % 2 == 0) = false := by
    rw [odd]
    rfl
  exact even

/-- The interval of the smaller of two magnitudes holds nothing of the other one's. -/
theorem disjoint_of_units_lt {left right : Binary64.Finite} (smaller : left.units < right.units)
    {magnitude : Nat} (inLeft : (Interval.of left).holds magnitude = true)
    (inRight : (Interval.of right).holds magnitude = true) : False := by
  obtain ⟨unit, positive, ends⟩ := exists_unit
  obtain ⟨-, -, upper⟩ := ends left
  obtain ⟨-, lower, -⟩ := ends right
  obtain ⟨separated, meet⟩ := Binary64.Finite.quarters_separated smaller
  obtain ⟨-, upTo, insideLeft⟩ := bounds_of_holds inLeft
  obtain ⟨downTo, -, insideRight⟩ := bounds_of_holds inRight
  rw [upper] at upTo insideLeft
  rw [lower] at downTo insideRight
  have ordered : 4 * left.units + 2 * left.gap ≤ 4 * right.units - right.gapBelow := by omega
  have apart := Nat.mul_le_mul_right unit ordered
  have touching : (4 * left.units + 2 * left.gap) * unit =
      (4 * right.units - right.gapBelow) * unit := by omega
  have halfway := Nat.eq_of_mul_eq_mul_right positive touching
  rcases meet (by omega) with odd | odd
  · have := (insideLeft (closed_of odd)).2
    omega
  · have := (insideRight (closed_of odd)).1
    omega

/-- Two numbers whose intervals share a magnitude have the same magnitude themselves. -/
theorem units_eq_of_holds {left right : Binary64.Finite} {magnitude : Nat}
    (inLeft : (Interval.of left).holds magnitude = true)
    (inRight : (Interval.of right).holds magnitude = true) : left.units = right.units := by
  rcases Nat.lt_trichotomy left.units right.units with smaller | equal | greater
  · exact (disjoint_of_units_lt smaller inLeft inRight).elim
  · exact equal
  · exact (disjoint_of_units_lt greater inRight inLeft).elim

/-- A number that is not zero lies inside its interval, and zero does not. -/
theorem inside_of {value : Binary64.Finite} (positive : value.significand ≠ 0) :
    0 < (Interval.of value).lower ∧ (Interval.of value).lower < (Interval.of value).centre ∧
      (Interval.of value).centre < (Interval.of value).upper := by
  obtain ⟨unit, unitPositive, ends⟩ := exists_unit
  obtain ⟨centre, lower, upper⟩ := ends value
  have gap := value.gap_pos
  have least : 1 * value.gap ≤ value.units := Nat.mul_le_mul_right _ (by omega)
  have below : 0 < value.gapBelow ∧ value.gapBelow ≤ 2 * value.gap := by
    unfold Binary64.Finite.gapBelow
    split <;> omega
  rw [lower, centre, upper]
  refine ⟨Nat.mul_pos (by omega) unitPositive, ?_, ?_⟩
  · exact Nat.mul_lt_mul_of_pos_right (by omega) unitPositive
  · exact Nat.mul_lt_mul_of_pos_right (by omega) unitPositive

/-- The interval of a number that is not zero holds the number. -/
theorem holds_centre {value : Binary64.Finite} (positive : value.significand ≠ 0) :
    (Interval.of value).holds (Interval.of value).centre = true := by
  obtain ⟨-, above, below⟩ := inside_of positive
  unfold holds
  split <;> simp <;> omega

/-- The nearest point of a grid, where one is found, lies in the interval. -/
theorem holds_of_nearest? {interval : Interval} {tie : Tie} {step coefficient : Nat}
    (found : interval.nearest? tie step = some coefficient) :
    interval.holds (coefficient * step) = true := by
  unfold nearest? at found
  simp only at found
  split at found
  next lower upper =>
    obtain rfl := Option.some.inj found
    have either (up : Bool) : interval.holds
        ((if up then interval.centre / step + 1 else interval.centre / step) * step) = true := by
      cases up
      · exact lower
      · exact upper
    exact either _
  next lower _ =>
    obtain rfl := Option.some.inj found
    exact lower
  next _ upper =>
    obtain rfl := Option.some.inj found
    exact upper
  · contradiction

end Interval

/-- A decimal in an interval: it stands on a grid no finer than `10 ^ -1074`, and the interval
holds its magnitude. -/
def Within (interval : Interval) (decimal : Decimal) : Prop :=
  ∃ grid : Nat, decimal.exponent = (grid : Int) - 1074 ∧
    interval.holds (decimal.coefficient * (4 * Nat.pow 10 grid)) = true

/-- The search ends at a decimal in the interval. -/
theorem search_within {interval : Interval} (tie : Tie) (quarters : interval.centre % 4 = 0)
    (middle : interval.holds interval.centre = true) (grid : Nat) :
    Within interval (interval.search tie grid) := by
  induction grid with
  | zero =>
    refine ⟨0, by simp [Interval.search], ?_⟩
    have whole : interval.centre / 4 * (4 * Nat.pow 10 0) = interval.centre := by
      have one : Nat.pow 10 0 = 1 := rfl
      rw [one]
      omega
    simpa only [Interval.search, whole] using middle
  | succ grid step =>
    unfold Interval.search
    split
    next coefficient found => exact ⟨grid + 1, by simp, Interval.holds_of_nearest? found⟩
    · exact step

/-- The shortest decimal of a number that is not zero lies in the number's interval. -/
theorem shortest_within (tie : Tie) {value : Binary64.Finite} (positive : value.significand ≠ 0) :
    Within (Interval.of value) (shortest tie value) := by
  obtain ⟨unit, -, ends⟩ := Interval.exists_unit
  refine search_within tie ?_ (Interval.holds_centre positive) _
  rw [(ends value).1, Nat.mul_assoc]
  exact Nat.mul_mod_right 4 _

/-- The shortest decimal of a number that is not zero is not zero. -/
theorem shortest_ne_zero (tie : Tie) {value : Binary64.Finite} (positive : value.significand ≠ 0) :
    (shortest tie value).coefficient ≠ 0 := by
  intro zero
  obtain ⟨grid, -, held⟩ := shortest_within tie positive
  have := (Interval.bounds_of_holds held).1
  have := (Interval.inside_of positive).1
  simp only [zero, Nat.zero_mul] at *
  omega

end Decimal

end FilmFinder
