import FilmFinder.Number.Numeral
import FilmFinder.Number.Shortest

/-!
# Number layouts

The layouts in which binary64 numbers are written: in query text, in JSON text and in
messages. All show the shortest decimal; they differ in where positional notation ends, in
whether a whole number keeps `.0`, in the sign of the power of ten, and in which of two
equally near decimals is taken.
-/
namespace FilmFinder

/-- A way to write binary64 numbers. -/
structure NumberLayout where
  /-- Which of two equally near shortest decimals is written. -/
  tie : Tie
  /-- Where positional notation is used, by the position of the point: `1` when one digit
  stands in front of it, `0` when the first digit stands just after it. -/
  positional : Int → Bool
  /-- A whole number in positional notation keeps `.0`. -/
  pointed : Bool
  /-- A positive power of ten carries a plus sign. -/
  plus : Bool

namespace NumberLayout

/-- Query text and plain answers: always positional, whole numbers without a point. -/
def query : NumberLayout := ⟨.up, fun _ => true, false, false⟩

/-- JSON text: positional from `0.00001` to below `10 ^ 16`, whole numbers with a point. -/
def json : NumberLayout := ⟨.even, fun point => -5 < point && point ≤ 16, true, true⟩

/-- Messages: positional from `0.0001` to below `10 ^ 16`, whole numbers with a point. -/
def message : NumberLayout := ⟨.up, fun point => -4 < point && point ≤ 16, true, false⟩

/-- A decimal in positional notation. -/
def spread (pointed negative : Bool) (decimal : Decimal) : Numeral :=
  match decimal.exponent with
  | .ofNat power =>
    ⟨negative, decimal.coefficient * Nat.pow 10 power, if pointed then ['0'] else [], none⟩
  | .negSucc power =>
    let places := power + 1
    ⟨negative, decimal.coefficient / Nat.pow 10 places,
      lastDigits places (decimal.coefficient % Nat.pow 10 places), none⟩

/-- A decimal with one digit in front of the point and a power of ten. -/
def scientific (negative : Bool) (decimal : Decimal) : Numeral :=
  let places := (Nat.toDigits 10 decimal.coefficient).length - 1
  ⟨negative, decimal.coefficient / Nat.pow 10 places,
    lastDigits places (decimal.coefficient % Nat.pow 10 places), some (decimal.exponent + places)⟩

/-- The numeral that a finite number is written as. -/
def numeral (layout : NumberLayout) (value : Binary64.Finite) : Numeral :=
  if value.significand = 0 then
    ⟨value.negative, 0, if layout.pointed then ['0'] else [], none⟩
  else
    let decimal := Decimal.shortest layout.tie value
    let point := decimal.exponent + (Nat.toDigits 10 decimal.coefficient).length
    if layout.positional point then spread layout.pointed value.negative decimal
    else scientific value.negative decimal

/-- The characters that a finite number is written with. -/
def characters (layout : NumberLayout) (value : Binary64.Finite) : List Char :=
  (layout.numeral value).characters layout.plus

/-- The text that a number is written as. -/
def text (layout : NumberLayout) : Binary64 → String
  | .nan => "NaN"
  | .infinite negative => if negative then "-inf" else "inf"
  | .finite value => String.ofList (layout.characters value)

end NumberLayout

end FilmFinder
