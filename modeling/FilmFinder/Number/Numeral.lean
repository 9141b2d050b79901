import FilmFinder.Number.Binary64

/-!
# Words and numerals

Counts, positions and whole numbers in data files fit a word of 64 bits, unsigned or signed;
the bounds of both are here, as numbers. A numeral is a number as it is written in decimal:
a sign, a whole part, the digits after the point and a power of ten. Reading a numeral as a
binary64 number comes in two forms, the nearest number to its value, and the number that data
files give it: the leading digits that fit a word, made binary64 and then scaled by a power
of ten, each step rounded.
-/
namespace FilmFinder

/-- One more than the greatest unsigned word. -/
abbrev wordBound : Nat := 18446744073709551616

/-- One more than the greatest signed word. -/
abbrev signedBound : Nat := 9223372036854775808

/-- The unsigned words are those of 64 bits. -/
theorem wordBound_eq : wordBound = Nat.pow 2 64 := rfl

/-- The signed words are those of 63 bits and a sign. -/
theorem signedBound_eq : signedBound = Nat.pow 2 63 := rfl

/-- A number as it is written in decimal. -/
structure Numeral where
  /-- A minus sign stands in front. -/
  negative : Bool
  /-- The part before the point. -/
  whole : Nat
  /-- The digits after the point; none when there is no point. -/
  fraction : List Char
  /-- The power of ten, when one is written. -/
  exponent : Option Int
  deriving DecidableEq

/-- The value of a decimal digit. -/
def digitValue (digit : Char) : Nat := digit.toNat - '0'.toNat

/-- The number that digits stand for, after those that stand for `before`. -/
def digitsValue (before : Nat) (digits : List Char) : Nat :=
  digits.foldl (fun value digit => 10 * value + digitValue digit) before

/-- The last `places` decimal digits of a number, with zeros in front where it has fewer. -/
def lastDigits : (places : Nat) → (value : Nat) → List Char
  | 0, _ => []
  | places + 1, value => lastDigits places (value / 10) ++ [Nat.digitChar (value % 10)]

/-- There are as many last digits as asked for. -/
@[simp] theorem length_lastDigits (places value : Nat) :
    (lastDigits places value).length = places := by
  induction places generalizing value with
  | zero => rfl
  | succ places step => simp [lastDigits, step]

namespace Numeral

/-- The characters of a numeral; a positive power of ten carries a plus sign if asked. -/
def characters (plus : Bool) (numeral : Numeral) : List Char :=
  (if numeral.negative then ['-'] else []) ++
    Nat.toDigits 10 numeral.whole ++
    (if numeral.fraction.isEmpty then [] else '.' :: numeral.fraction) ++
    match numeral.exponent with
    | none => []
    | some exponent =>
      'e' :: (if exponent < 0 then ['-'] else if plus then ['+'] else []) ++
        Nat.toDigits 10 exponent.natAbs

/-- The numeral of an integer. -/
def ofInt (value : Int) : Numeral := ⟨decide (value < 0), value.natAbs, [], none⟩

/-- The integer that a numeral without point and power writes, when it fits an unsigned or a
negative signed 64-bit word. A minus sign in front of zero writes no integer. -/
def integer? (numeral : Numeral) : Option Int :=
  if numeral.fraction.isEmpty && numeral.exponent.isNone then
    if numeral.negative then
      if 1 ≤ numeral.whole ∧ numeral.whole ≤ signedBound then some (-(numeral.whole : Int))
      else none
    else if numeral.whole < wordBound then some numeral.whole else none
  else none

/-- The binary64 number nearest to the value of a numeral. -/
def nearest (numeral : Numeral) : Binary64 :=
  .ofDecimal numeral.negative (digitsValue numeral.whole numeral.fraction)
    (numeral.exponent.getD 0 - numeral.fraction.length)

/-- The leading digits of a number that fit 64 bits, and how many digits follow them. At
least one digit goes in each step, so as many steps as the number has bits suffice. -/
def leadingDigits : (steps dropped value : Nat) → Nat × Nat
  | 0, dropped, value => (value, dropped)
  | steps + 1, dropped, value =>
    if value < wordBound then (value, dropped) else leadingDigits steps (dropped + 1) (value / 10)

/-- Append digits to a significand while it fits 64 bits; each lowers the power of ten. -/
def appendDigits (significand : Nat) (power : Int) : List Char → Nat × Int
  | [] => (significand, power)
  | digit :: digits =>
    let longer := 10 * significand + digitValue digit
    if longer < wordBound then appendDigits longer (power - 1) digits else (significand, power)

/-- A number scaled by a power of ten, which is itself rounded to binary64 first. A power below
`10 ^ -308` is divided out in two steps, and one below `10 ^ -616` leaves nothing. -/
def scaleByTen (value : Binary64) (power : Int) : Binary64 :=
  if 308 < power then
    match value with
    | .finite number => if number.significand = 0 then value else .infinite number.negative
    | _ => value
  else if 0 ≤ power then value.mul (.ofDecimal false 1 power)
  else if -308 ≤ power then value.div (.ofDecimal false 1 (-power))
  else if -616 ≤ power then
    (value.div (.ofDecimal false 1 308)).div (.ofDecimal false 1 (-power - 308))
  else value.mul (.finite (.zero false))

/-- The finite number that a data file means by a numeral: its leading digits made binary64 and
scaled by the power of ten left over. None when that is not finite. -/
def scaled? (numeral : Numeral) : Option Binary64.Finite :=
  let (significand, dropped) := leadingDigits (numeral.whole.log2 + 1) 0 numeral.whole
  let (significand, power) := appendDigits significand dropped numeral.fraction
  let magnitude := scaleByTen (.ofNat significand) (power + numeral.exponent.getD 0)
  magnitude.finite?.map (.negateIf numeral.negative)

end Numeral

end FilmFinder
