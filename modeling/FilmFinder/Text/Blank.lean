/-!
# Blank characters

Text that people type is read without the blanks around it. A blank is a character
with the Unicode property `White_Space`; zero-width characters and the separators
below the space are not blank. Trimming is idempotent and leaves no blank at either end.
-/
namespace FilmFinder.Text

/-- The inclusive ranges of code points with the Unicode property `White_Space`. -/
def blankRanges : List (Nat × Nat) :=
  [(0x0009, 0x000D), (0x0020, 0x0020), (0x0085, 0x0085), (0x00A0, 0x00A0), (0x1680, 0x1680),
    (0x2000, 0x200A), (0x2028, 0x2029), (0x202F, 0x202F), (0x205F, 0x205F), (0x3000, 0x3000)]

/-- A character is blank when its code point lies in one of the blank ranges. -/
def isBlank (character : Char) : Bool :=
  blankRanges.any fun range => range.1 ≤ character.toNat && character.toNat ≤ range.2

/-- The characters left when the blanks at both ends are dropped. -/
def trimmed (characters : List Char) : List Char :=
  ((characters.dropWhile isBlank).reverse.dropWhile isBlank).reverse

/-- The text left when the blanks at both ends are dropped. -/
def trim (text : String) : String := String.ofList (trimmed text.toList)

/-- Dropping a run twice drops nothing more. -/
theorem dropWhile_dropWhile (accept : Char → Bool) (characters : List Char) :
    (characters.dropWhile accept).dropWhile accept = characters.dropWhile accept := by
  induction characters with
  | nil => rfl
  | cons first rest step =>
    cases accepted : accept first with
    | true => simp only [List.dropWhile_cons, accepted, ↓reduceIte, step]
    | false => simp [accepted]

/-- The first character that is left after dropping a run is not of the run. -/
theorem head_dropWhile (accept : Char → Bool) (characters : List Char) (first : Char)
    (rest : List Char) (left : characters.dropWhile accept = first :: rest) :
    accept first = false := by
  induction characters with
  | nil => simp at left
  | cons head tail step =>
    cases accepted : accept head with
    | true => exact step (by simpa [List.dropWhile_cons, accepted] using left)
    | false =>
      simp only [List.dropWhile_cons, accepted, Bool.false_eq_true, ↓reduceIte,
        List.cons.injEq] at left
      exact left.1 ▸ accepted

/-- A run that starts with a character outside it is dropped nowhere. -/
theorem dropWhile_eq_self (accept : Char → Bool) (first : Char) (rest : List Char)
    (refused : accept first = false) :
    (first :: rest).dropWhile accept = first :: rest := by
  simp [refused]

/-- Trimming a trimmed text changes nothing. -/
theorem trimmed_trimmed (characters : List Char) :
    trimmed (trimmed characters) = trimmed characters := by
  let front := characters.dropWhile isBlank
  let back := front.reverse.dropWhile isBlank
  have backed : back.dropWhile isBlank = back := dropWhile_dropWhile isBlank _
  have fronted : back.reverse.dropWhile isBlank = back.reverse := by
    cases frontShape : front with
    | nil => simp [back, frontShape]
    | cons first rest =>
      have open_first : isBlank first = false :=
        head_dropWhile isBlank characters first rest frontShape
      have split : ∃ middle, back = middle ++ [first] := by
        simp only [back, frontShape, List.reverse_cons]
        rw [List.dropWhile_append]
        split
        · exact ⟨[], by simp [open_first]⟩
        · exact ⟨_, rfl⟩
      obtain ⟨middle, shape⟩ := split
      rw [shape, List.reverse_append]
      exact dropWhile_eq_self isBlank first middle.reverse open_first
  show ((back.reverse.dropWhile isBlank).reverse.dropWhile isBlank).reverse = back.reverse
  rw [fronted, List.reverse_reverse, backed]

/-- Trimming twice is trimming once. -/
@[simp] theorem trim_trim (text : String) : trim (trim text) = trim text := by
  simp [trim, trimmed_trimmed]

end FilmFinder.Text
