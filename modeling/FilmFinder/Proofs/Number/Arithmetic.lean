import FilmFinder.Number.Numeral
import FilmFinder.Proofs.Number.Rounding

/-!
# Arithmetic on magnitudes

A sum, a product and a quotient of binary64 numbers have the rounded magnitude of the exact result,
as long as no number is infinite. Small natural numbers keep their magnitude, and so the integers
that fit a word are finite numbers in any reading.
-/
namespace FilmFinder

namespace Binary64

/-- A natural number has the rounded magnitude of as many ones. -/
theorem ofNat_magnitude (value : Nat) :
    Magnitude false (ofNat value) (roundedUnits (value * unitsPerOne) 1) :=
  ofUnits_magnitude false (value * unitsPerOne) 1

/-- A number that counts few ones is on a grid. -/
theorem onGrid_mul_unitsPerOne {count : Nat} (few : count ≤ 2 * leadingBit) :
    OnGrid (count * unitsPerOne) :=
  ⟨count, 1074, few, congrArg (count * ·) unitsPerOne_eq⟩

/-- A small natural number keeps its magnitude. -/
theorem roundedUnits_of_few {count : Nat} (few : count ≤ 2 * leadingBit) :
    roundedUnits (count * unitsPerOne) 1 = count * unitsPerOne := by
  have kept := (onGrid_mul_unitsPerOne few).roundedUnits_mul Nat.one_pos
  rwa [Nat.mul_one] at kept

/-- A positive finite number is as many units as its magnitude has. -/
theorem Finite.signedUnits_of_positive {value : Finite} (positive : value.negative = false) :
    value.signedUnits = value.units := by
  unfold signedUnits
  rw [positive]
  rfl

/-- A number that is not below zero has no minus sign, or is zero. -/
theorem Finite.units_eq_zero_of_negative {value : Finite} (unsigned : 0 ≤ value.signedUnits)
    (negative : value.negative = true) : value.units = 0 := by
  unfold signedUnits at unsigned
  rw [if_pos negative] at unsigned
  omega

/-- No rounded sum of magnitudes falls below the bound of the finite numbers once one of them has
reached it. -/
theorem finiteBound_le_sum {left right : Nat} (past : finiteBound ≤ left ∨ finiteBound ≤ right) :
    finiteBound ≤ roundedUnits (left + right) 1 :=
  finiteBound_onGrid.le_roundedUnits Nat.one_pos (by omega)

/-- The sum of two positive numbers has the rounded sum of their magnitudes. -/
theorem Magnitude.add {left right : Binary64} {leftUnits rightUnits : Nat}
    (leftMagnitude : Magnitude false left leftUnits)
    (rightMagnitude : Magnitude false right rightUnits) :
    Magnitude false (left.add right) (roundedUnits (leftUnits + rightUnits) 1) := by
  cases leftMagnitude with
  | infinite past =>
    cases rightMagnitude <;> exact .infinite (finiteBound_le_sum (.inl past))
  | @finite left leftSigned =>
    cases rightMagnitude with
    | infinite past => exact .infinite (finiteBound_le_sum (.inr past))
    | @finite right rightSigned =>
      have sum : left.signedUnits + right.signedUnits =
          ((left.units + right.units : Nat) : Int) := by
        rw [Finite.signedUnits_of_positive leftSigned, Finite.signedUnits_of_positive rightSigned]
        rfl
      change Magnitude false (if _ then _ else _) _
      rw [sum]
      by_cases nothing : left.units + right.units = 0
      · rw [nothing, if_pos (Int.natCast_eq_zero.mpr rfl), leftSigned, rightSigned]
        exact .finite rfl
      · rw [if_neg (by omega), Int.natAbs_natCast, decide_eq_false (by omega)]
        exact ofUnits_magnitude false _ 1

/-- The quotient of two positive finite numbers has their rounded quotient as its magnitude. -/
theorem div_magnitude {left right : Finite} (leftSigned : left.negative = false)
    (rightSigned : right.negative = false) (divisor : right.units ≠ 0) :
    Magnitude false ((Binary64.finite left).div (.finite right))
      (roundedUnits (left.units * unitsPerOne) right.units) := by
  have significand : right.significand ≠ 0 := mt Finite.units_eq_zero_iff.mpr divisor
  change Magnitude false (if _ then _ else _) _
  rw [if_neg significand, leftSigned, rightSigned]
  exact ofUnits_magnitude false _ _

/-- A small whole number keeps its magnitude and is finite. -/
theorem exists_finite_of_few {count : Nat} (few : count ≤ 2 * leadingBit) :
    ∃ value, ofNat count = .finite value ∧ value.negative = false ∧
      value.units = count * unitsPerOne := by
  have small : count * unitsPerOne < finiteBound := by
    refine Nat.lt_of_le_of_lt (Nat.mul_le_mul_right _ few) ?_
    decide +kernel
  have magnitude := ofNat_magnitude count
  rw [roundedUnits_of_few few] at magnitude
  exact magnitude.exists_finite small

/-- The product of two finite numbers has the rounded product of their magnitudes. -/
theorem mul_magnitude (left right : Finite) :
    Magnitude (xor left.negative right.negative) ((Binary64.finite left).mul (.finite right))
      (roundedUnits (left.units * right.units) unitsPerOne) := by
  change Magnitude _ (ofUnits (xor left.negative right.negative) (left.units * right.units)
    unitsPerOne) _
  exact ofUnits_magnitude (xor left.negative right.negative) (left.units * right.units) unitsPerOne

end Binary64

open Binary64

end FilmFinder
