/-!
# Binary64 numbers

Every finite binary64 number is a whole number of units of `2 ^ -1074`, written with one
sign, one significand below `2 ^ 53` and one power of two. Arithmetic is exact on those
units and rounds once, to the nearest number, a tie going to the even significand; a
magnitude past the largest finite number becomes infinite.
-/
namespace FilmFinder

/-- The whole number nearest to a quotient, a tie going to the even one. -/
def roundHalfEven (numerator denominator : Nat) : Nat :=
  let quotient := numerator / denominator
  let remainder := numerator % denominator
  if 2 * remainder < denominator then quotient
  else if denominator < 2 * remainder then quotient + 1
  else quotient + quotient % 2

/-- The leading bit of the significand of a number at full precision: the number `2 ^ 52`. -/
abbrev Binary64.leadingBit : Nat := 4503599627370496

/-- How many units of `2 ^ -1074` make one. -/
def Binary64.unitsPerOne : Nat := Nat.pow 2 1074

/-- A significand and a power of two are canonical when no other pair stands for the same
finite binary64 magnitude. -/
abbrev Binary64.Canonical (significand scale : Nat) : Prop :=
  significand < 2 * leadingBit ∧ scale ≤ 2045 ∧ (leadingBit ≤ significand ∨ scale = 0)

/-- A finite binary64 number: `significand * 2 ^ scale` units of `2 ^ -1074`, with a sign
that zero has too. -/
structure Binary64.Finite where
  /-- The number carries a minus sign. -/
  negative : Bool
  /-- The significand, below `2 ^ 53`. -/
  significand : Nat
  /-- The power of two that scales the significand. -/
  scale : Nat
  /-- No other significand and scale stand for the same magnitude. -/
  canonical : Binary64.Canonical significand scale
  deriving DecidableEq

/-- A binary64 number. -/
inductive Binary64 where
  /-- The result of an operation that has no value. -/
  | nan
  /-- A magnitude past every finite one. -/
  | infinite (negative : Bool)
  /-- A finite number. -/
  | finite (value : Binary64.Finite)
  deriving DecidableEq

namespace Binary64

namespace Finite

/-- The magnitude in units of `2 ^ -1074`. -/
def units (value : Finite) : Nat := value.significand * Nat.pow 2 value.scale

/-- The value in units of `2 ^ -1074`; both zeros have the same one. -/
def signedUnits (value : Finite) : Int :=
  if value.negative then -(value.units : Int) else value.units

/-- Two finite numbers have the same value; the zeros do, whatever their signs. -/
def sameValue (left right : Finite) : Bool := left.signedUnits == right.signedUnits

/-- Zero with a sign. -/
def zero (negative : Bool) : Finite := ⟨negative, 0, 0, by decide⟩

/-- The number with its sign turned if asked. -/
def negateIf (turn : Bool) (value : Finite) : Finite :=
  { value with negative := xor turn value.negative }

end Finite

/-- The finite number, if it is one. -/
def finite? : Binary64 → Option Finite
  | .finite value => some value
  | _ => none

/-- The number with the given sign nearest to `numerator / denominator` units of `2 ^ -1074`,
a tie going to the even significand. -/
def ofUnits (negative : Bool) (numerator denominator : Nat) : Binary64 :=
  let scale := (numerator / denominator).log2 - 52
  let significand := roundHalfEven numerator (denominator * Nat.pow 2 scale)
  let carried :=
    if significand = 2 * leadingBit then (leadingBit, scale + 1) else (significand, scale)
  if canonical : Canonical carried.1 carried.2 then
    .finite ⟨negative, carried.1, carried.2, canonical⟩
  else .infinite negative

/-- The number nearest to a natural number. -/
def ofNat (value : Nat) : Binary64 := ofUnits false (value * unitsPerOne) 1

/-- The number nearest to an integer; zero is positive. -/
def ofInt (value : Int) : Binary64 := ofUnits (decide (value < 0)) (value.natAbs * unitsPerOne) 1

/-- The number nearest to `coefficient * 10 ^ exponent`, with the given sign. The bounds keep
the powers small: past them the nearest number is infinite, or zero. -/
def ofDecimal (negative : Bool) (coefficient : Nat) (exponent : Int) : Binary64 :=
  if coefficient = 0 then .finite (.zero negative)
  else
    match exponent with
    | .ofNat power =>
      if 400 < power then .infinite negative
      else ofUnits negative (coefficient * Nat.pow 10 power * unitsPerOne) 1
    | .negSucc power =>
      if coefficient.log2 + 400 < power then .finite (.zero negative)
      else ofUnits negative (coefficient * unitsPerOne) (Nat.pow 10 (power + 1))

/-- The number nearest to a sum. -/
def add : Binary64 → Binary64 → Binary64
  | .nan, _ => .nan
  | _, .nan => .nan
  | .infinite left, .infinite right => if left = right then .infinite left else .nan
  | .infinite left, .finite _ => .infinite left
  | .finite _, .infinite right => .infinite right
  | .finite left, .finite right =>
    let sum := left.signedUnits + right.signedUnits
    if sum = 0 then .finite (.zero (left.negative && right.negative))
    else ofUnits (decide (sum < 0)) sum.natAbs 1

/-- The number nearest to a product. -/
def mul : Binary64 → Binary64 → Binary64
  | .nan, _ => .nan
  | _, .nan => .nan
  | .infinite left, .infinite right => .infinite (xor left right)
  | .infinite left, .finite right =>
    if right.significand = 0 then .nan else .infinite (xor left right.negative)
  | .finite left, .infinite right =>
    if left.significand = 0 then .nan else .infinite (xor left.negative right)
  | .finite left, .finite right =>
    ofUnits (xor left.negative right.negative) (left.units * right.units) unitsPerOne

/-- The number nearest to a quotient. -/
def div : Binary64 → Binary64 → Binary64
  | .nan, _ => .nan
  | _, .nan => .nan
  | .infinite _, .infinite _ => .nan
  | .infinite left, .finite right => .infinite (xor left right.negative)
  | .finite left, .infinite right => .finite (.zero (xor left.negative right))
  | .finite left, .finite right =>
    if right.significand = 0 then
      if left.significand = 0 then .nan else .infinite (xor left.negative right.negative)
    else ofUnits (xor left.negative right.negative) (left.units * unitsPerOne) right.units

end Binary64

end FilmFinder
