import FilmFinder.Number.Layout
import FilmFinder.Proofs.Number.Interval
import FilmFinder.Proofs.Text.Delimited

/-!
# Numbers in plain notation

Query text shows a finite number in positional notation: digits, at most one point, and a
minus sign for a negative number and for negative zero. The text determines the number, since
it determines the magnitude of the shortest decimal, and that magnitude lies in the rounding
interval of one number only.
-/
namespace FilmFinder

/-- The last digits of a number are decimal digits. -/
theorem isDigit_of_mem_lastDigits {places value : Nat} {digit : Char}
    (inside : digit ∈ lastDigits places value) : digit.isDigit = true := by
  induction places generalizing value with
  | zero => simp [lastDigits] at inside
  | succ places step =>
    unfold lastDigits at inside
    rcases List.mem_append.mp inside with early | last
    · exact step early
    · obtain rfl := List.mem_singleton.mp last
      rw [Nat.isDigit_digitChar, decide_eq_true_eq]
      exact Nat.mod_lt _ (by decide)

/-- The value of the digit that a number below ten is written as. -/
theorem digitValue_digitChar {digit : Nat} (small : digit < 10) :
    digitValue (Nat.digitChar digit) = digit :=
  Nat.toNat_digitChar_sub_48_of_lt_ten small

/-- The last digits of a number stand for its remainder. -/
theorem digitsValue_lastDigits (before places value : Nat) :
    digitsValue before (lastDigits places value) =
      before * Nat.pow 10 places + value % Nat.pow 10 places := by
  induction places generalizing value with
  | zero =>
    have one : Nat.pow 10 0 = 1 := rfl
    rw [one, Nat.mod_one, Nat.mul_one]
    rfl
  | succ places step =>
    have longer : Nat.pow 10 (places + 1) = 10 * Nat.pow 10 places := Nat.pow_succ'
    have last := digitValue_digitChar (Nat.mod_lt value (show 0 < 10 by decide))
    have parts := Nat.mod_mul (x := value) (a := 10) (b := Nat.pow 10 places)
    have appended : digitsValue before (lastDigits (places + 1) value) =
        10 * digitsValue before (lastDigits places (value / 10)) +
          digitValue (Nat.digitChar (value % 10)) := by
      simp only [digitsValue, lastDigits, List.foldl_append, List.foldl_cons, List.foldl_nil]
    rw [appended, step, last, longer, parts, Nat.mul_add]
    ac_rfl

namespace Numeral

/-- A numeral in plain notation: no power of ten, and digits after the point. -/
structure IsPlain (numeral : Numeral) : Prop where
  /-- No power of ten is written. -/
  positional : numeral.exponent = none
  /-- What stands after the point are digits. -/
  digits : ∀ digit ∈ numeral.fraction, digit.isDigit = true

/-- The characters of plain notation. -/
def isPlainCharacter (character : Char) : Bool :=
  character.isDigit || character == '.' || character == '-'

/-- A plain numeral without its sign. -/
def unsignedCharacters (numeral : Numeral) : List Char :=
  Nat.toDigits 10 numeral.whole ++
    if numeral.fraction.isEmpty then [] else '.' :: numeral.fraction

/-- A plain numeral is its sign and what follows it. -/
theorem characters_of_plain {numeral : Numeral} (plain : numeral.IsPlain) (plus : Bool) :
    numeral.characters plus =
      (if numeral.negative then ['-'] else []) ++ numeral.unsignedCharacters := by
  simp [characters, unsignedCharacters, plain.positional]

/-- The digits of a whole part are decimal digits. -/
theorem isDigit_of_mem_whole {whole : Nat} {digit : Char} (inside : digit ∈ Nat.toDigits 10 whole) :
    digit.isDigit = true :=
  Nat.isDigit_of_mem_toDigits (by decide) (by decide) inside

/-- A plain numeral is written in the characters of plain notation. -/
theorem isPlainCharacter_of_mem {numeral : Numeral} (plain : numeral.IsPlain) {plus : Bool}
    {character : Char} (inside : character ∈ numeral.characters plus) :
    isPlainCharacter character = true := by
  have digit (isDigit : character.isDigit = true) : isPlainCharacter character = true := by
    simp [isPlainCharacter, isDigit]
  rw [characters_of_plain plain, unsignedCharacters] at inside
  rcases List.mem_append.mp inside with sign | inside
  · split at sign
    · obtain rfl := List.mem_singleton.mp sign
      rfl
    · contradiction
  rcases List.mem_append.mp inside with whole | inside
  · exact digit (isDigit_of_mem_whole whole)
  split at inside
  · contradiction
  · rcases List.mem_cons.mp inside with rfl | fraction
    · rfl
    · exact digit (plain.digits _ fraction)

/-- A numeral starts with a digit after its sign. -/
theorem exists_first_digit (numeral : Numeral) :
    ∃ first rest, numeral.unsignedCharacters = first :: rest ∧ first.isDigit = true := by
  cases shape : Nat.toDigits 10 numeral.whole with
  | nil => exact absurd shape Nat.toDigits_ne_nil
  | cons first rest =>
    have inside : first ∈ Nat.toDigits 10 numeral.whole := by
      rw [shape]
      exact .head _
    refine ⟨first, rest ++ if numeral.fraction.isEmpty then [] else '.' :: numeral.fraction, ?_,
      isDigit_of_mem_whole inside⟩
    rw [unsignedCharacters, shape, List.cons_append]

/-- The digits of a whole part determine it. -/
theorem whole_eq_of_toDigits_eq {left right : Nat}
    (same : Nat.toDigits 10 left = Nat.toDigits 10 right) : left = right := by
  rw [← Nat.ofDigitChars_ten_toDigits (n := left), same, Nat.ofDigitChars_ten_toDigits]

/-- A point is no digit. -/
theorem point_not_mem_whole (whole : Nat) : '.' ∉ Nat.toDigits 10 whole := fun inside =>
  absurd (isDigit_of_mem_whole inside) (by decide)

/-- What follows the sign determines the whole part and the digits after the point. -/
theorem parts_eq_of_unsigned_eq {left right : Numeral}
    (same : left.unsignedCharacters = right.unsignedCharacters) :
    left.whole = right.whole ∧ left.fraction = right.fraction := by
  unfold unsignedCharacters at same
  cases leftFraction : left.fraction with
  | nil =>
    cases rightFraction : right.fraction with
    | nil =>
      simp only [leftFraction, rightFraction, List.isEmpty_nil, ↓reduceIte, List.append_nil] at same
      exact ⟨whole_eq_of_toDigits_eq same, rfl⟩
    | cons digit digits =>
      simp only [leftFraction, rightFraction, List.isEmpty_nil, List.isEmpty_cons,
        Bool.false_eq_true, ↓reduceIte, List.append_nil] at same
      exact absurd (by rw [same]; simp) (point_not_mem_whole left.whole)
  | cons digit digits =>
    cases rightFraction : right.fraction with
    | nil =>
      simp only [leftFraction, rightFraction, List.isEmpty_nil, List.isEmpty_cons,
        Bool.false_eq_true, ↓reduceIte, List.append_nil] at same
      exact absurd (by rw [← same]; simp) (point_not_mem_whole right.whole)
    | cons other others =>
      simp only [leftFraction, rightFraction, List.isEmpty_cons, Bool.false_eq_true,
        ↓reduceIte] at same
      obtain ⟨wholes, -, fractions⟩ := Text.split_at_outside
        (fun character => character.isDigit = true) (fun _ => isDigit_of_mem_whole)
        (fun _ => isDigit_of_mem_whole) (by decide) (by decide) same
      exact ⟨whole_eq_of_toDigits_eq wholes, fractions⟩

/-- The text of a plain numeral determines the numeral. -/
theorem eq_of_characters_eq {left right : Numeral} (leftPlain : left.IsPlain)
    (rightPlain : right.IsPlain) {plus : Bool}
    (same : left.characters plus = right.characters plus) : left = right := by
  rw [characters_of_plain leftPlain, characters_of_plain rightPlain] at same
  obtain ⟨leftFirst, leftRest, leftShape, leftDigit⟩ := exists_first_digit left
  obtain ⟨rightFirst, rightRest, rightShape, rightDigit⟩ := exists_first_digit right
  have notSign {first : Char} (isDigit : first.isDigit = true) : '-' ≠ first := by
    rintro rfl
    exact absurd isDigit (by decide)
  have signs : left.negative = right.negative ∧
      left.unsignedCharacters = right.unsignedCharacters := by
    cases leftSign : left.negative <;> cases rightSign : right.negative <;>
      simp only [leftSign, rightSign, Bool.false_eq_true, ↓reduceIte, List.nil_append,
        List.cons_append, List.cons.injEq, true_and] at same
    · exact ⟨rfl, same⟩
    · rw [leftShape] at same
      exact absurd (List.cons.inj same).1.symm (notSign leftDigit)
    · rw [rightShape] at same
      exact absurd (List.cons.inj same).1 (notSign rightDigit)
    · exact ⟨rfl, same⟩
  obtain ⟨wholes, fractions⟩ := parts_eq_of_unsigned_eq signs.2
  have exponents := leftPlain.positional.trans rightPlain.positional.symm
  cases left
  cases right
  simp_all

end Numeral

namespace NumberLayout

/-- A decimal in positional notation is a plain numeral. -/
theorem spread_isPlain (negative : Bool) (decimal : Decimal) :
    (spread false negative decimal).IsPlain := by
  unfold spread
  split
  · exact ⟨rfl, by simp⟩
  · exact ⟨rfl, fun _ => isDigit_of_mem_lastDigits⟩

/-- A decimal in positional notation carries the sign it is given. -/
theorem spread_negative (pointed negative : Bool) (decimal : Decimal) :
    (spread pointed negative decimal).negative = negative := by
  unfold spread
  split <;> rfl

/-- A decimal in positional notation is zero only when its digits are. -/
theorem spread_ne_zero {negative sign : Bool} {decimal : Decimal}
    (present : decimal.coefficient ≠ 0) : spread false negative decimal ≠ ⟨sign, 0, [], none⟩ := by
  intro same
  unfold spread at same
  split at same
  next power _ =>
    have whole : decimal.coefficient * Nat.pow 10 power = 0 := (Numeral.mk.inj same).2.1
    exact Nat.mul_ne_zero present (Nat.ne_of_gt (Nat.pow_pos (by decide))) whole
  next power _ =>
    have fraction := congrArg List.length (Numeral.mk.inj same).2.2.1
    simp at fraction

/-- Two decimals with one positional notation have the same magnitude, whatever the finest grid
it is counted on. -/
theorem magnitude_eq_of_spread_eq {leftSign rightSign : Bool} {left right : Decimal} (finest
    leftGrid rightGrid : Nat) (leftPlace : left.exponent + finest = leftGrid)
    (rightPlace : right.exponent + finest = rightGrid)
    (same : spread false leftSign left = spread false rightSign right) :
    left.coefficient * Nat.pow 10 leftGrid = right.coefficient * Nat.pow 10 rightGrid := by
  unfold spread at same
  cases leftExponent : left.exponent with
  | ofNat leftPower =>
    cases rightExponent : right.exponent with
    | ofNat rightPower =>
      simp only [leftExponent, rightExponent, Int.ofNat_eq_natCast] at same leftPlace rightPlace
      have wholes := (Numeral.mk.inj same).2.1
      obtain rfl : leftPower + finest = leftGrid := by omega
      obtain rfl : rightPower + finest = rightGrid := by omega
      simp only [Nat.pow_eq] at wholes ⊢
      rw [Nat.pow_add, Nat.pow_add, ← Nat.mul_assoc, ← Nat.mul_assoc, wholes]
    | negSucc rightPower =>
      simp only [leftExponent, rightExponent] at same
      have fractions := congrArg List.length (Numeral.mk.inj same).2.2.1
      simp at fractions
  | negSucc leftPower =>
    cases rightExponent : right.exponent with
    | ofNat rightPower =>
      simp only [leftExponent, rightExponent] at same
      have fractions := congrArg List.length (Numeral.mk.inj same).2.2.1
      simp at fractions
    | negSucc rightPower =>
      simp only [leftExponent, rightExponent] at same
      obtain ⟨-, wholes, fractions, -⟩ := Numeral.mk.inj same
      obtain rfl : leftPower = rightPower := by
        have lengths := congrArg List.length fractions
        simpa using lengths
      obtain rfl : leftGrid = rightGrid := by omega
      have rests := congrArg (digitsValue 0) fractions
      simp only [digitsValue_lastDigits, Nat.zero_mul, Nat.zero_add, Nat.mod_mod] at rests
      have coefficients : left.coefficient = right.coefficient := by
        rw [← Nat.div_add_mod left.coefficient (Nat.pow 10 (leftPower + 1)), wholes, rests,
          Nat.div_add_mod]
      rw [coefficients]

/-- The numeral of zero in query text. -/
theorem query_numeral_zero {value : Binary64.Finite} (zero : value.significand = 0) :
    query.numeral value = ⟨value.negative, 0, [], none⟩ := by
  simp [numeral, query, zero]

/-- The numeral of any other number in query text. -/
theorem query_numeral_spread {value : Binary64.Finite} (positive : value.significand ≠ 0) :
    query.numeral value = spread false value.negative (Decimal.shortest .up value) := by
  simp [numeral, query, positive]

/-- Query text writes numbers as plain numerals. -/
theorem query_isPlain (value : Binary64.Finite) : (query.numeral value).IsPlain := by
  by_cases zero : value.significand = 0
  · rw [query_numeral_zero zero]
    exact ⟨rfl, by simp⟩
  · rw [query_numeral_spread zero]
    exact spread_isPlain _ _

/-- A numeral in query text carries the sign of its number. -/
theorem query_negative (value : Binary64.Finite) :
    (query.numeral value).negative = value.negative := by
  by_cases zero : value.significand = 0
  · rw [query_numeral_zero zero]
  · rw [query_numeral_spread zero, spread_negative]

/-- The numeral in query text determines the magnitude of its number. -/
theorem units_eq_of_query_numeral_eq {left right : Binary64.Finite}
    (same : query.numeral left = query.numeral right) : left.units = right.units := by
  by_cases leftZero : left.significand = 0
  · by_cases rightZero : right.significand = 0
    · rw [Binary64.Finite.units_eq, Binary64.Finite.units_eq, leftZero, rightZero, Nat.zero_mul,
        Nat.zero_mul]
    · rw [query_numeral_zero leftZero, query_numeral_spread rightZero] at same
      exact absurd same.symm (spread_ne_zero (Decimal.shortest_ne_zero .up rightZero))
  · by_cases rightZero : right.significand = 0
    · rw [query_numeral_spread leftZero, query_numeral_zero rightZero] at same
      exact absurd same (spread_ne_zero (Decimal.shortest_ne_zero .up leftZero))
    · rw [query_numeral_spread leftZero, query_numeral_spread rightZero] at same
      obtain ⟨leftGrid, leftPlace, inLeft⟩ := Decimal.shortest_within .up leftZero
      obtain ⟨rightGrid, rightPlace, inRight⟩ := Decimal.shortest_within .up rightZero
      have magnitudes := magnitude_eq_of_spread_eq 1074 leftGrid rightGrid (by omega) (by omega)
        same
      rw [Nat.mul_left_comm] at inLeft inRight
      rw [magnitudes] at inLeft
      exact Decimal.Interval.units_eq_of_holds inLeft inRight

/-- The text of a number in a query determines the number, negative zero apart from zero. -/
theorem query_characters_injective {left right : Binary64.Finite}
    (same : query.characters left = query.characters right) : left = right := by
  have numerals := Numeral.eq_of_characters_eq (query_isPlain left) (query_isPlain right) same
  have signs : left.negative = right.negative := by
    rw [← query_negative left, numerals, query_negative]
  exact Binary64.Finite.eq_of_units_eq signs (units_eq_of_query_numeral_eq numerals)

/-- The text of a number in a query holds digits, a point and a minus sign at most. -/
theorem isPlainCharacter_of_mem_query {value : Binary64.Finite} {character : Char}
    (inside : character ∈ query.characters value) :
    Numeral.isPlainCharacter character = true :=
  Numeral.isPlainCharacter_of_mem (query_isPlain value) inside

end NumberLayout

end FilmFinder
