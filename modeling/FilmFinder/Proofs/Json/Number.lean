import FilmFinder.Json.Reader
import FilmFinder.Json.Record
import FilmFinder.Json.Value
import FilmFinder.Proofs.Number.Plain

/-!
# Numbers in JSON text

A numeral is read back from its characters, whatever follows them, as long as that cannot
continue the numeral. So the numeral of a finite number is read back too, and since it always has
a point or a power of ten, no reader of integers takes it for one.
-/
namespace FilmFinder

/-- A character that can continue a numeral. -/
def Numeral.continues (character : Char) : Bool :=
  character.isDigit || character == '.' || character == 'e' || character == 'E'

/-- A text that continues no numeral: it is empty, or its first character does not. -/
def Numeral.EndsBefore (rest : List Char) : Prop :=
  ∀ first ∈ rest.head?, Numeral.continues first = false

/-- A text without a digit in front. -/
def DigitFree (rest : List Char) : Prop := ∀ first ∈ rest.head?, first.isDigit = false

/-- A text that continues no numeral has no digit in front. -/
theorem Numeral.EndsBefore.digitFree {rest : List Char} (ends : EndsBefore rest) :
    DigitFree rest := by
  intro first inside
  have stops := ends first inside
  simp only [continues, Bool.or_eq_false_iff] at stops
  exact stops.1.1.1

/-- Digits are read up to a text without a digit in front. -/
theorem readDigits?_append {digits rest : List Char} (present : digits ≠ [])
    (allDigits : ∀ digit ∈ digits, digit.isDigit = true) (free : DigitFree rest) :
    readDigits? (digits ++ rest) = some (digits, rest) := by
  have stop : rest.takeWhile Char.isDigit = [] ∧ rest.dropWhile Char.isDigit = rest := by
    cases rest with
    | nil => exact ⟨rfl, rfl⟩
    | cons first rest =>
      have refused : first.isDigit = false := free first rfl
      simp [refused]
  have some_digit : digits.isEmpty = false := by simpa using present
  unfold readDigits?
  rw [List.takeWhile_append_of_pos allDigits, List.dropWhile_append_of_pos allDigits, stop.1,
    stop.2, List.append_nil]
  simp [some_digit]

/-- The digits of a number stand for it. -/
theorem digitsValue_toDigits (value : Nat) : digitsValue 0 (Nat.toDigits 10 value) = value :=
  Nat.ofDigitChars_ten_toDigits

/-- The digits of a number are read back. -/
theorem readDigits?_toDigits (value : Nat) {rest : List Char} (free : DigitFree rest) :
    readDigits? (Nat.toDigits 10 value ++ rest) = some (Nat.toDigits 10 value, rest) :=
  readDigits?_append Nat.toDigits_ne_nil (fun _ => Numeral.isDigit_of_mem_whole) free

/-- Only zero has digits that start with a zero. -/
theorem toDigits_head_ne_zero {value : Nat} (positive : value ≠ 0) :
    (Nat.toDigits 10 value).head? ≠ some '0' := by
  induction value using Nat.strongRecOn with
  | ind value step =>
    by_cases small : value < 10
    · rw [Nat.toDigits_of_lt_base small]
      intro same
      have digit := digitValue_digitChar small
      rw [Option.some.inj same] at digit
      exact positive digit.symm
    · have higher : value / 10 ≠ 0 := by omega
      have front := step (value / 10) (by omega) higher
      rw [Nat.toDigits_of_base_le (by decide) (Nat.le_of_not_lt small), List.head?_append]
      cases shape : (Nat.toDigits 10 (value / 10)).head? with
      | none => exact absurd (List.head?_eq_none_iff.mp shape) Nat.toDigits_ne_nil
      | some first =>
        rw [shape] at front
        exact front

/-- The digits of a number start with a digit. -/
theorem exists_first_digit (value : Nat) :
    ∃ first others, Nat.toDigits 10 value = first :: others ∧ first.isDigit = true := by
  obtain ⟨first, others, shape⟩ :=
    List.exists_cons_of_ne_nil (Nat.toDigits_ne_nil (n := value) (b := 10))
  have inside : first ∈ Nat.toDigits 10 value := by
    rw [shape]
    exact .head _
  exact ⟨first, others, shape, Numeral.isDigit_of_mem_whole inside⟩

namespace Json

/-- The whole part of a numeral is read back. -/
theorem readWhole?_toDigits (value : Nat) {rest : List Char} (free : DigitFree rest) :
    readWhole? (Nat.toDigits 10 value ++ rest) = some (value, rest) := by
  unfold readWhole?
  rw [readDigits?_toDigits value free]
  by_cases zero : value = 0
  · subst zero
    rfl
  · have head := toDigits_head_ne_zero zero
    split
    next shape =>
      obtain ⟨digits, -⟩ := Prod.mk.inj (Option.some.inj shape)
      rw [digits] at head
      exact absurd rfl head
    next shape =>
      obtain ⟨rfl, rfl⟩ := Prod.mk.inj (Option.some.inj shape)
      rw [digitsValue_toDigits]
    next shape => contradiction

/-- Digits with no sign in front are read as a power of ten. -/
theorem readExponent?_toDigits (value : Nat) {rest : List Char} (free : DigitFree rest) :
    readExponent? (Nat.toDigits 10 value ++ rest) = some ((value : Int), rest) := by
  have digits := readDigits?_toDigits value free
  have stands := digitsValue_toDigits value
  obtain ⟨first, others, shape, digit⟩ := exists_first_digit value
  rw [shape] at digits stands ⊢
  unfold readExponent?
  split
  next same =>
    obtain ⟨rfl, -⟩ := List.cons.inj same
    exact absurd digit (by decide)
  next same =>
    obtain ⟨rfl, -⟩ := List.cons.inj same
    exact absurd digit (by decide)
  next => simp only [digits, Option.map_some, stands]

/-- The sign of a power of ten. -/
def scaleSign (plus : Bool) (exponent : Int) : List Char :=
  if exponent < 0 then ['-'] else if plus then ['+'] else []

/-- A power of ten is read back. -/
theorem readExponent?_written (exponent : Int) (plus : Bool) {rest : List Char}
    (free : DigitFree rest) :
    readExponent? (scaleSign plus exponent ++ (Nat.toDigits 10 exponent.natAbs ++ rest)) =
      some (exponent, rest) := by
  have digits := readDigits?_toDigits exponent.natAbs free
  have stands := digitsValue_toDigits exponent.natAbs
  unfold scaleSign
  by_cases negative : exponent < 0
  · have magnitude : -(exponent.natAbs : Int) = exponent := by omega
    rw [if_pos negative, List.cons_append, List.nil_append]
    simp only [readExponent?, digits, Option.map_some, stands, magnitude]
  · have magnitude : (exponent.natAbs : Int) = exponent := by omega
    rw [if_neg negative]
    cases plus with
    | true =>
      rw [if_pos rfl, List.cons_append, List.nil_append]
      simp only [readExponent?, digits, Option.map_some, stands, magnitude]
    | false =>
      rw [if_neg Bool.false_ne_true, List.nil_append, readExponent?_toDigits _ free, magnitude]

/-- What stands after the digits of a numeral: its power of ten. -/
def writtenScale (plus : Bool) : Option Int → List Char
  | none => []
  | some exponent => 'e' :: (scaleSign plus exponent ++ Nat.toDigits 10 exponent.natAbs)

/-- What stands after the whole part of a numeral: its digits after the point. -/
def writtenFraction (fraction : List Char) : List Char :=
  if fraction.isEmpty then [] else '.' :: fraction

/-- A numeral is its sign, its whole part, its digits after the point and its power of ten. -/
theorem characters_eq (numeral : Numeral) (plus : Bool) :
    numeral.characters plus =
      (if numeral.negative then ['-'] else []) ++ (Nat.toDigits 10 numeral.whole ++
        (writtenFraction numeral.fraction ++ writtenScale plus numeral.exponent)) := by
  unfold Numeral.characters writtenFraction writtenScale scaleSign
  cases numeral.exponent <;> simp only [List.append_assoc, List.cons_append]

/-- A power of ten that may be missing is read back. -/
theorem readScale?_written (exponent : Option Int) (plus : Bool) {rest : List Char}
    (ends : Numeral.EndsBefore rest) :
    readScale? (writtenScale plus exponent ++ rest) = some (exponent, rest) := by
  cases exponent with
  | none =>
    change readScale? rest = _
    unfold readScale?
    split
    next => exact absurd (ends 'e' rfl) (by decide)
    next => exact absurd (ends 'E' rfl) (by decide)
    next => rfl
  | some exponent =>
    rw [writtenScale, List.cons_append, List.append_assoc]
    simp only [readScale?, readExponent?_written exponent plus ends.digitFree, Option.map_some]

/-- A power of ten leaves no digit and no point in front. -/
theorem head_scale (exponent : Option Int) (plus : Bool) {rest : List Char}
    (ends : Numeral.EndsBefore rest) :
    ∀ first ∈ (writtenScale plus exponent ++ rest).head?, first.isDigit = false ∧ first ≠ '.' := by
  intro first inside
  cases exponent with
  | none =>
    have stops := ends first inside
    simp only [Numeral.continues, Bool.or_eq_false_iff, beq_eq_false_iff_ne] at stops
    exact ⟨stops.1.1.1, stops.1.1.2⟩
  | some exponent =>
    obtain rfl : 'e' = first := Option.some.inj inside
    exact ⟨by decide, by decide⟩

/-- Digits after a point are read back. -/
theorem readFraction?_written {fraction rest : List Char}
    (digits : ∀ digit ∈ fraction, digit.isDigit = true)
    (ends : ∀ first ∈ rest.head?, first.isDigit = false ∧ first ≠ '.') :
    readFraction? (writtenFraction fraction ++ rest) = some (fraction, rest) := by
  cases fraction with
  | nil =>
    change readFraction? rest = _
    unfold readFraction?
    split
    next => exact absurd rfl (ends '.' rfl).2
    next => rfl
  | cons digit others =>
    exact readDigits?_append (List.cons_ne_nil _ _) digits fun first inside => (ends first inside).1

/-- What follows a whole part has no digit in front. -/
theorem digitFree_fraction (fraction : List Char) {rest : List Char}
    (ends : ∀ first ∈ rest.head?, first.isDigit = false ∧ first ≠ '.') :
    DigitFree (writtenFraction fraction ++ rest) := by
  intro first inside
  cases fraction with
  | nil => exact (ends first inside).1
  | cons digit others =>
    obtain rfl : '.' = first := Option.some.inj inside
    decide

/-- A numeral is read back after its sign. -/
theorem readMagnitude?_written (numeral : Numeral) (plus : Bool)
    (digits : ∀ digit ∈ numeral.fraction, digit.isDigit = true) {rest : List Char}
    (ends : Numeral.EndsBefore rest) :
    readMagnitude? numeral.negative (Nat.toDigits 10 numeral.whole ++
      (writtenFraction numeral.fraction ++ writtenScale plus numeral.exponent) ++ rest) =
        some (numeral, rest) := by
  have afterDigits := head_scale numeral.exponent plus ends
  have whole := readWhole?_toDigits numeral.whole (digitFree_fraction numeral.fraction afterDigits)
  have fraction := readFraction?_written digits afterDigits
  have scale := readScale?_written numeral.exponent plus ends
  rw [List.append_assoc, List.append_assoc]
  simp only [readMagnitude?, whole, fraction, scale, bind, Option.bind]

/-- A numeral is read back from its characters. -/
theorem readNumber?_characters (numeral : Numeral) (plus : Bool)
    (digits : ∀ digit ∈ numeral.fraction, digit.isDigit = true) {rest : List Char}
    (ends : Numeral.EndsBefore rest) :
    readNumber? (numeral.characters plus ++ rest) = some (numeral, rest) := by
  have magnitude := readMagnitude?_written numeral plus digits ends
  rw [characters_eq]
  cases negative : numeral.negative with
  | true =>
    rw [negative] at magnitude
    exact magnitude
  | false =>
    rw [negative] at magnitude
    obtain ⟨first, others, shape, digit⟩ := exists_first_digit numeral.whole
    rw [shape] at magnitude ⊢
    change readNumber? (first :: _) = _
    unfold readNumber?
    split
    next same =>
      obtain ⟨rfl, -⟩ := List.cons.inj same
      exact absurd digit (by decide)
    next => exact magnitude

end Json

namespace NumberLayout

/-- A number is written as the numeral of zero, in positional notation, or with one digit in front
of the point and a power of ten. -/
theorem numeral_cases (layout : NumberLayout) (value : Binary64.Finite) :
    layout.numeral value = ⟨value.negative, 0, if layout.pointed then ['0'] else [], none⟩ ∨
      ∃ decimal, layout.numeral value = spread layout.pointed value.negative decimal ∨
        layout.numeral value = scientific value.negative decimal := by
  by_cases zero : value.significand = 0
  · left
    rw [numeral, if_pos zero]
  · right
    refine ⟨Decimal.shortest layout.tie value, ?_⟩
    rw [numeral, if_neg zero]
    generalize Decimal.shortest layout.tie value = decimal
    exact (Classical.em _).imp (fun positional => if_pos positional) fun scaled => if_neg scaled

/-- After the point of a number stand digits, in every layout. -/
theorem isDigit_of_mem_fraction (layout : NumberLayout) (value : Binary64.Finite) :
    ∀ digit ∈ (layout.numeral value).fraction, digit.isDigit = true := by
  have point : ∀ digit ∈ (if layout.pointed then ['0'] else []), digit.isDigit = true := by
    intro digit inside
    split at inside
    · obtain rfl := List.mem_singleton.mp inside
      rfl
    · contradiction
  rcases layout.numeral_cases value with same | ⟨decimal, same | same⟩ <;> rw [same]
  · exact point
  · unfold spread
    split
    · exact point
    · exact fun _ => isDigit_of_mem_lastDigits
  · exact fun _ => isDigit_of_mem_lastDigits

/-- A number in JSON text has a point or a power of ten, so it writes no integer. -/
theorem json_integer? (value : Binary64.Finite) : (json.numeral value).integer? = none := by
  have marked : ((json.numeral value).fraction.isEmpty && (json.numeral value).exponent.isNone) =
      false := by
    rcases json.numeral_cases value with same | ⟨decimal, same | same⟩ <;> rw [same]
    · rfl
    · unfold spread
      split
      · rfl
      · simp [lastDigits]
    · simp [scientific]
  unfold Numeral.integer?
  rw [marked]
  rfl

end NumberLayout

namespace Numeral

/-- A numeral that writes an integer is the numeral of that integer. -/
theorem eq_ofInt_of_integer? {numeral : Numeral} {value : Int}
    (read : numeral.integer? = some value) : numeral = .ofInt value := by
  obtain ⟨negative, whole, fraction, exponent⟩ := numeral
  unfold integer? at read
  dsimp only at read
  split at read
  next bare =>
    rw [Bool.and_eq_true, List.isEmpty_iff, Option.isNone_iff_eq_none] at bare
    obtain ⟨rfl, rfl⟩ := bare
    cases negative with
    | true =>
      rw [if_pos rfl] at read
      split at read
      next fits =>
        obtain rfl := Option.some.inj read
        have below : -(whole : Int) < 0 := by omega
        rw [ofInt, decide_eq_true below, Int.natAbs_neg, Int.natAbs_natCast]
      next => contradiction
    | false =>
      rw [if_neg Bool.false_ne_true] at read
      split at read
      next =>
        obtain rfl := Option.some.inj read
        simp [ofInt]
      next => contradiction
  next => contradiction

end Numeral

namespace Json

/-- A signed 64-bit integer is read back as an integer. -/
theorem integer?_ofInt (value : Int64) :
    (Numeral.ofInt value.toInt).integer? = some value.toInt := by
  have least := value.le_toInt
  have most := value.toInt_lt
  unfold Numeral.integer? Numeral.ofInt signedBound wordBound
  simp only [List.isEmpty_nil, Option.isNone_none, Bool.and_self, ↓reduceIte, decide_eq_true_eq]
  by_cases negative : value.toInt < 0
  · have fits : 1 ≤ value.toInt.natAbs ∧ value.toInt.natAbs ≤ 9223372036854775808 := by omega
    rw [if_pos negative, if_pos fits]
    congr 1
    omega
  · have fits : value.toInt.natAbs < 18446744073709551616 := by omega
    rw [if_neg negative, if_pos fits]
    congr 1
    omega

/-- A signed 64-bit integer is read back. -/
theorem int64?_ofInt (value : Int64) : (Json.ofInt value.toInt).int64? = some value := by
  have least := value.le_toInt
  have most := value.toInt_lt
  have fits : -(signedBound : Int) ≤ value.toInt ∧ value.toInt < signedBound := by
    unfold signedBound
    omega
  have read : (Json.ofInt value.toInt).integer? = some value.toInt := integer?_ofInt value
  simp only [int64?, read, bind, Option.bind]
  rw [if_pos fits, Int64.ofInt_toInt]

/-- A value is read as a signed 64-bit integer exactly when it is the JSON value of that one. -/
theorem int64?_eq_some_iff {value : Json} {word : Int64} :
    value.int64? = some word ↔ value = .ofInt word.toInt := by
  constructor
  · intro read
    obtain ⟨integer, known, fits⟩ := Option.bind_eq_some_iff.mp read
    split at fits
    next bounds =>
      obtain rfl := Option.some.inj fits
      have kept : (Int64.ofInt integer).toInt = integer :=
        Int64.toInt_ofInt_of_le bounds.1 bounds.2
      cases value with
      | number numeral => rw [kept, ofInt, Numeral.eq_ofInt_of_integer? known]
      | null | bool | string | array | object => contradiction
    next => contradiction
  · rintro rfl
    exact int64?_ofInt word

end Json

end FilmFinder
