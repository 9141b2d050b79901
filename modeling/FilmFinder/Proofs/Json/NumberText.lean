import FilmFinder.Proofs.Json.RoundTrip
import FilmFinder.Text.Blank

/-!
# The texts that are numbers

A text is read as a number exactly when it is one by the grammar of JSON: an optional minus sign, a
whole part without a zero in front of other digits, digits after a point and a power of ten where
they stand, and nothing but blanks around them. Each part of the grammar is a relation between
characters and what they write, and each reader is exact for one part.
-/
namespace FilmFinder

namespace Json

/-- Digits, at least one. -/
structure Digits (characters : List Char) : Prop where
  /-- There is one. -/
  present : characters ≠ []
  /-- Nothing else stands among them. -/
  digits : ∀ character ∈ characters, character.isDigit = true

/-- Characters that write a whole part: a zero alone, or digits that start with none. -/
structure WholeText (characters : List Char) (value : Nat) : Prop where
  /-- They are digits. -/
  digits : Digits characters
  /-- No zero stands in front of other digits. -/
  leading : ∀ others, characters = '0' :: others → others = []
  /-- They write the value. -/
  value_eq : digitsValue 0 characters = value

/-- Characters that write the digits after a point, if there are any. -/
inductive FractionText : List Char → List Char → Prop
  /-- There is no point. -/
  | absent : FractionText [] []
  /-- A point and digits. -/
  | point {digits : List Char} (written : Digits digits) : FractionText ('.' :: digits) digits

/-- Characters that write an integer with an optional sign. -/
inductive ExponentText : List Char → Int → Prop
  /-- There is no sign. -/
  | unsigned {digits : List Char} (written : Digits digits) :
    ExponentText digits (digitsValue 0 digits)
  /-- There is a plus sign. -/
  | plus {digits : List Char} (written : Digits digits) :
    ExponentText ('+' :: digits) (digitsValue 0 digits)
  /-- There is a minus sign. -/
  | minus {digits : List Char} (written : Digits digits) :
    ExponentText ('-' :: digits) (-(digitsValue 0 digits : Int))

/-- Characters that write a power of ten, if there is one. -/
inductive ScaleText : List Char → Option Int → Prop
  /-- There is none. -/
  | absent : ScaleText [] none
  /-- A mark and an integer. -/
  | power {mark : Char} (marked : mark = 'e' ∨ mark = 'E') {characters : List Char} {exponent : Int}
    (written : ExponentText characters exponent) : ScaleText (mark :: characters) (some exponent)

/-- Characters that write a number and nothing else. -/
inductive NumeralText : List Char → Numeral → Prop
  /-- A sign, a whole part, digits after the point and a power of ten. -/
  | parts (negative : Bool) {whole fraction scale digits : List Char} {value : Nat}
    {exponent : Option Int} (wholeText : WholeText whole value)
    (fractionText : FractionText fraction digits) (scaleText : ScaleText scale exponent) :
    NumeralText ((if negative then ['-'] else []) ++ (whole ++ (fraction ++ scale)))
      ⟨negative, value, digits, exponent⟩

/-- Characters that write a number with blanks around it. -/
inductive NumberText : List Char → Numeral → Prop
  /-- Blanks, a number and blanks. -/
  | within {before characters after : List Char} {numeral : Numeral}
    (blankBefore : ∀ character ∈ before, isGap character = true)
    (written : NumeralText characters numeral)
    (blankAfter : ∀ character ∈ after, isGap character = true) :
    NumberText (before ++ (characters ++ after)) numeral

variable {characters rest : List Char}

/-- The digits after a point are written as they are. -/
theorem FractionText.eq_written {fraction digits : List Char}
    (text : FractionText fraction digits) :
    fraction = writtenFraction digits ∧ ∀ digit ∈ digits, digit.isDigit = true := by
  cases text with
  | absent => exact ⟨rfl, fun _ inside => nomatch inside⟩
  | point written =>
    refine ⟨?_, written.digits⟩
    unfold writtenFraction
    rw [if_neg (by simpa using written.present)]

/-- A whole part is read up to a text without a digit in front. -/
theorem WholeText.read {whole : List Char} {value : Nat} (text : WholeText whole value)
    (free : DigitFree rest) : readWhole? (whole ++ rest) = some (value, rest) := by
  unfold readWhole?
  rw [readDigits?_append text.digits.present text.digits.digits free]
  split
  next first others after same =>
    obtain ⟨padded, -⟩ := Prod.mk.inj (Option.some.inj same)
    exact absurd (text.leading _ padded) (List.cons_ne_nil _ _)
  next same =>
    obtain ⟨rfl, rfl⟩ := Prod.mk.inj (Option.some.inj same)
    rw [text.value_eq]
  next same => contradiction

/-- An integer is read up to a text without a digit in front. -/
theorem ExponentText.read {front : List Char} {exponent : Int} (text : ExponentText front exponent)
    (free : DigitFree rest) : readExponent? (front ++ rest) = some (exponent, rest) := by
  cases text with
  | plus written =>
    have digits := readDigits?_append written.present written.digits free
    simp only [List.cons_append, readExponent?, digits, Option.map_some]
  | minus written =>
    have digits := readDigits?_append written.present written.digits free
    simp only [List.cons_append, readExponent?, digits, Option.map_some]
  | unsigned written =>
    have digits := readDigits?_append written.present written.digits free
    obtain ⟨first, others, rfl⟩ := List.exists_cons_of_ne_nil written.present
    have digit : first.isDigit = true := written.digits first (.head _)
    unfold readExponent?
    split
    next same =>
      obtain ⟨rfl, -⟩ := List.cons.inj same
      exact absurd digit (by decide)
    next same =>
      obtain ⟨rfl, -⟩ := List.cons.inj same
      exact absurd digit (by decide)
    next => simp only [digits, Option.map_some]

/-- A power of ten is read up to a text that continues no numeral. -/
theorem ScaleText.read {scale : List Char} {exponent : Option Int} (text : ScaleText scale exponent)
    (ends : Numeral.EndsBefore rest) : readScale? (scale ++ rest) = some (exponent, rest) := by
  cases text with
  | absent => exact readScale?_written none false ends
  | power marked written =>
    have read := written.read ends.digitFree
    rcases marked with rfl | rfl <;> simp only [List.cons_append, readScale?, read, Option.map_some]

/-- A power of ten and what follows it leave no digit and no point in front. -/
theorem ScaleText.head {scale : List Char} {exponent : Option Int} (text : ScaleText scale exponent)
    (ends : Numeral.EndsBefore rest) :
    ∀ first ∈ (scale ++ rest).head?, first.isDigit = false ∧ first ≠ '.' := by
  cases text with
  | absent => exact head_scale none false ends
  | @power mark marked characters exponent written =>
    intro first inside
    obtain rfl : mark = first := Option.some.inj inside
    rcases marked with rfl | rfl <;> decide

/-- A number is read up to a text that continues no numeral. -/
theorem NumeralText.read {front : List Char} {numeral : Numeral} (text : NumeralText front numeral)
    (ends : Numeral.EndsBefore rest) : readNumber? (front ++ rest) = some (numeral, rest) := by
  obtain ⟨negative, wholeText, fractionText, scaleText⟩ := text
  rename_i whole fraction scale digits value exponent
  obtain ⟨rfl, allDigits⟩ := fractionText.eq_written
  have head := scaleText.head ends
  have wholeRead := wholeText.read (digitFree_fraction digits head)
  have fractionRead := readFraction?_written allDigits head
  have scaleRead := scaleText.read ends
  have magnitude (sign : Bool) :
      readMagnitude? sign (whole ++ (writtenFraction digits ++ (scale ++ rest))) =
        some (⟨sign, value, digits, exponent⟩, rest) := by
    simp only [readMagnitude?, wholeRead, fractionRead, scaleRead, bind, Option.bind]
  cases negative with
  | true =>
    simp only [↓reduceIte, List.append_assoc, List.cons_append, List.nil_append]
    exact magnitude true
  | false =>
    have read := magnitude false
    obtain ⟨first, others, rfl⟩ := List.exists_cons_of_ne_nil wholeText.digits.present
    have digit : first.isDigit = true := wholeText.digits.digits first (.head _)
    simp only [Bool.false_eq_true, ↓reduceIte, List.nil_append, List.append_assoc,
      List.cons_append] at read ⊢
    unfold readNumber?
    split
    next same =>
      obtain ⟨rfl, -⟩ := List.cons.inj same
      exact absurd digit (by decide)
    next => exact read

/-- A number starts with a digit or a minus sign. -/
theorem NumeralText.start {front : List Char} {numeral : Numeral}
    (text : NumeralText front numeral) :
    ∃ first others, front = first :: others ∧ (first.isDigit = true ∨ first = '-') := by
  obtain ⟨negative, wholeText, fractionText, scaleText⟩ := text
  cases negative with
  | true => exact ⟨'-', _, rfl, .inr rfl⟩
  | false =>
    obtain ⟨first, others, rfl⟩ := List.exists_cons_of_ne_nil wholeText.digits.present
    exact ⟨first, _, rfl, .inl (wholeText.digits.digits first (.head _))⟩

end Json

end FilmFinder
