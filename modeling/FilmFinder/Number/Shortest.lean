import FilmFinder.Number.Binary64

/-!
# Shortest decimals

The shortest decimal of a positive binary64 number has the fewest digits among the decimals
that round to it, and of those the one nearest to it. The search walks through the grids
of multiples of a power of ten, from coarse to fine: the first grid with a point in the
rounding interval gives the fewest digits, and one of the number's two neighbours on that
grid is the nearest. The finest grid, of multiples of `10 ^ -1074`, holds the number itself.
-/
namespace FilmFinder

/-- A positive decimal `coefficient * 10 ^ exponent`. -/
structure Decimal where
  /-- The digits, as one number. -/
  coefficient : Nat
  /-- The power of ten that scales the digits. -/
  exponent : Int
  deriving DecidableEq

/-- Which of two decimals that are equally near is taken. -/
inductive Tie where
  /-- The larger one. -/
  | up
  /-- The one with the even coefficient. -/
  | even
  deriving DecidableEq

namespace Decimal

/-- The magnitudes that round to a binary64 number, in quarters of `10 ^ -1074`. -/
structure Interval where
  /-- The number itself. -/
  centre : Nat
  /-- The lower end. -/
  lower : Nat
  /-- The upper end. -/
  upper : Nat
  /-- Both ends round to the number too. -/
  closed : Bool

/-- The magnitudes that round to a number: half the gap to the next number on either side,
where the gap below a power of two is half as wide. The ends belong to an even significand. -/
def Interval.of (value : Binary64.Finite) : Interval :=
  let unit := Nat.pow 5 1074
  let gap := Nat.pow 2 value.scale
  let below := if value.significand = Binary64.leadingBit ∧ value.scale ≠ 0 then gap else 2 * gap
  { centre := 4 * value.units * unit
    lower := (4 * value.units - below) * unit
    upper := (4 * value.units + 2 * gap) * unit
    closed := value.significand % 2 == 0 }

/-- A magnitude rounds to the number of the interval. -/
def Interval.holds (interval : Interval) (magnitude : Nat) : Bool :=
  if interval.closed then interval.lower ≤ magnitude && magnitude ≤ interval.upper
  else interval.lower < magnitude && magnitude < interval.upper

/-- The coefficient of the point nearest to the centre among the multiples of `step` that the
interval holds, looked for at the centre's two neighbours. -/
def Interval.nearest? (interval : Interval) (tie : Tie) (step : Nat) : Option Nat :=
  let floor := interval.centre / step
  let rest := interval.centre % step
  let up : Bool :=
    if 2 * rest < step then false
    else if step < 2 * rest then true
    else tie == .up || floor % 2 == 1
  match interval.holds (floor * step), interval.holds ((floor + 1) * step) with
  | true, true => some (if up then floor + 1 else floor)
  | true, false => some floor
  | false, true => some (floor + 1)
  | false, false => none

/-- The first grid, counted down to `10 ^ -1074`, that has a point in the interval. -/
def Interval.search (interval : Interval) (tie : Tie) : Nat → Decimal
  | 0 => ⟨interval.centre / 4, -1074⟩
  | grid + 1 =>
    match interval.nearest? tie (4 * Nat.pow 10 (grid + 1)) with
    | some coefficient => ⟨coefficient, (grid : Int) + 1 - 1074⟩
    | none => interval.search tie grid

/-- The shortest decimal that rounds to a positive number, of those the nearest. The first grid
is coarser than the interval is long: `8 ^ n` passes it when `n` is a third of its bits. -/
def shortest (tie : Tie) (value : Binary64.Finite) : Decimal :=
  let interval := Interval.of value
  interval.search tie (interval.upper.log2 / 3 + 1)

end Decimal

end FilmFinder
