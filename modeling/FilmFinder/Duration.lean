import FilmFinder.Number.Numeral

/-!
# Durations

A duration is a whole number of nanoseconds. Scaling one goes through binary64 seconds: the
whole seconds and the fraction are made binary64, added and multiplied, each step rounded,
and the product is rounded to the nearest nanosecond, a tie going to the even one. A
product below zero, without a value, or of `2 ^ 64` seconds and more is no duration.
-/
namespace FilmFinder

/-- A span of time. -/
structure Duration where
  /-- The length in nanoseconds. -/
  nanoseconds : Nat
  deriving DecidableEq

/-- Why a number of seconds is no duration. -/
inductive DurationFault where
  /-- The number is below zero. -/
  | negative
  /-- The number is past the longest duration, or no number. -/
  | tooBig
  deriving DecidableEq

/-- The fault in words. -/
def DurationFault.message : DurationFault → String
  | .negative => "cannot convert float seconds to Duration: value is negative"
  | .tooBig => "cannot convert float seconds to Duration: value is either too big or NaN"

namespace Duration

/-- Nanoseconds in a second. -/
def perSecond : Nat := 1000000000

/-- A duration of whole milliseconds. -/
def ofMilliseconds (milliseconds : Nat) : Duration := ⟨milliseconds * 1000000⟩

/-- The shorter of two durations. -/
def min (left right : Duration) : Duration := ⟨Nat.min left.nanoseconds right.nanoseconds⟩

/-- The length in binary64 seconds. -/
def seconds (duration : Duration) : Binary64 :=
  (Binary64.ofNat (duration.nanoseconds / perSecond)).add
    ((Binary64.ofNat (duration.nanoseconds % perSecond)).div (.ofNat perSecond))

/-- The duration of a number of seconds, to the nearest nanosecond. -/
def ofSeconds? : Binary64 → Except DurationFault Duration
  | .nan => .error .tooBig
  | .infinite negative => .error (if negative then .negative else .tooBig)
  | .finite value =>
    if value.significand = 0 then .ok ⟨0⟩
    else if value.negative then .error .negative
    else if wordBound * Binary64.unitsPerOne ≤ value.units then .error .tooBig
    else .ok ⟨roundHalfEven (value.units * perSecond) Binary64.unitsPerOne⟩

/-- A duration multiplied by a factor. -/
def scaled? (duration : Duration) (factor : Binary64) : Except DurationFault Duration :=
  ofSeconds? (factor.mul duration.seconds)

/-- Digits after a point without the zeros at their end, the point included; nothing when no
digit is left. -/
def fractionText (digits : List Char) : List Char :=
  let kept := (digits.reverse.dropWhile (· == '0')).reverse
  if kept.isEmpty then [] else '.' :: kept

/-- The length in the largest unit it reaches, with its exact fraction. -/
def text (duration : Duration) : String :=
  let shown (unit : Nat) (places : Nat) (name : String) : String :=
    (duration.nanoseconds / unit).repr ++
      String.ofList (fractionText (lastDigits places (duration.nanoseconds % unit))) ++ name
  if perSecond ≤ duration.nanoseconds then shown perSecond 9 "s"
  else if 1000000 ≤ duration.nanoseconds then shown 1000000 6 "ms"
  else if 1000 ≤ duration.nanoseconds then shown 1000 3 "µs"
  else shown 1 0 "ns"

end Duration

end FilmFinder
