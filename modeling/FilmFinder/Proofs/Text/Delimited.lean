import FilmFinder.Text.Escape

/-!
# Texts between delimiters

A part of a text that avoids its delimiter ends at the first delimiter, so where it ends is
not a matter of choice. An escaped text may hold every character, yet it ends at the first
metacharacter without a backslash. What is so for one part is so for parts joined by a
separator, as long as no part can run on through the separator.
-/
namespace FilmFinder.Text

/-- Texts of one class of characters end at the first character outside the class. -/
theorem split_at_outside (inside : Char → Prop) {left right : List Char}
    (leftInside : ∀ character ∈ left, inside character)
    (rightInside : ∀ character ∈ right, inside character) {first second : Char}
    (firstOutside : ¬ inside first) (secondOutside : ¬ inside second)
    {leftRest rightRest : List Char}
    (same : left ++ first :: leftRest = right ++ second :: rightRest) :
    left = right ∧ first = second ∧ leftRest = rightRest := by
  induction left generalizing right with
  | nil =>
    cases right with
    | nil => simpa using same
    | cons head tail =>
      obtain ⟨rfl, -⟩ := List.cons.inj same
      exact absurd (rightInside first (.head _)) firstOutside
  | cons head tail step =>
    cases right with
    | nil =>
      obtain ⟨rfl, -⟩ := List.cons.inj same
      exact absurd (leftInside head (.head _)) secondOutside
    | cons other others =>
      obtain ⟨rfl, rest⟩ := List.cons.inj same
      obtain ⟨rfl, ends⟩ := step (fun character within => leftInside character (.tail _ within))
        (fun character within => rightInside character (.tail _ within)) rest
      exact ⟨rfl, ends⟩

/-- A delimiter of escaped texts: a metacharacter that is not the backslash itself. -/
abbrev IsDelimiter (character : Char) : Prop := isMeta character = true ∧ character ≠ '\\'

/-- An escaped character and a delimiter never start the same text. -/
theorem escapeCharacter_ne_delimiter {character delimiter : Char} (ends : IsDelimiter delimiter)
    (left right : List Char) : escapeCharacter character ++ left ≠ delimiter :: right := by
  intro same
  unfold escapeCharacter at same
  split at same
  next =>
    obtain ⟨backslash, -⟩ := List.cons.inj same
    exact ends.2 backslash.symm
  next plain =>
    obtain ⟨rfl, -⟩ := List.cons.inj same
    exact plain ends.1

/-- The first escaped character of a text is determined, and so is what follows it. -/
theorem escapeCharacter_split {first second : Char} {left right : List Char}
    (same : escapeCharacter first ++ left = escapeCharacter second ++ right) :
    first = second ∧ left = right := by
  have backslash : isMeta '\\' = true := by decide
  unfold escapeCharacter at same
  split at same
  next =>
    split at same
    next => simpa using same
    next plain =>
      obtain ⟨rfl, -⟩ := List.cons.inj same
      exact absurd backslash plain
  next plain =>
    split at same
    next =>
      obtain ⟨rfl, -⟩ := List.cons.inj same
      exact absurd backslash plain
    next => simpa using same

/-- Escaped texts end at the first delimiter that is not escaped. -/
theorem escaped_split {left right : List Char} {first second : Char} (firstEnds : IsDelimiter first)
    (secondEnds : IsDelimiter second) {leftRest rightRest : List Char}
    (same : escaped left ++ first :: leftRest = escaped right ++ second :: rightRest) :
    left = right ∧ first = second ∧ leftRest = rightRest := by
  induction left generalizing right with
  | nil =>
    cases right with
    | nil => simpa using same
    | cons head tail =>
      rw [escaped_cons, List.append_assoc] at same
      exact absurd same.symm (escapeCharacter_ne_delimiter firstEnds _ _)
  | cons head tail step =>
    cases right with
    | nil =>
      rw [escaped_cons, List.append_assoc] at same
      exact absurd same (escapeCharacter_ne_delimiter secondEnds _ _)
    | cons other others =>
      rw [escaped_cons, escaped_cons, List.append_assoc, List.append_assoc] at same
      obtain ⟨rfl, rest⟩ := escapeCharacter_split same
      obtain ⟨rfl, ends⟩ := step rest
      exact ⟨rfl, ends⟩

/-- Parts joined by a separator are determined when each part is: `stops` says what may follow
a part, and what follows the last one does not start with the separator. -/
theorem joined_split {α : Type} (separator : Char) (text : α → List Char)
    (stops : List Char → Prop) (separated : ∀ rest, stops (separator :: rest)) {left right : List α}
    (split : ∀ first ∈ left, ∀ second ∈ right, ∀ leftRest rightRest, stops leftRest →
      stops rightRest → text first ++ leftRest = text second ++ rightRest →
      first = second ∧ leftRest = rightRest)
    (leftPresent : left ≠ []) (rightPresent : right ≠ []) {leftRest rightRest : List Char}
    (leftStops : stops leftRest) (rightStops : stops rightRest)
    (leftEnds : leftRest.head? ≠ some separator) (rightEnds : rightRest.head? ≠ some separator)
    (same : [separator].intercalate (left.map text) ++ leftRest =
      [separator].intercalate (right.map text) ++ rightRest) :
    left = right ∧ leftRest = rightRest := by
  induction left generalizing right with
  | nil => exact absurd rfl leftPresent
  | cons first firsts step =>
    cases right with
    | nil => exact absurd rfl rightPresent
    | cons second seconds =>
      have heads := split first (.head _) second (.head _)
      cases firsts with
      | nil =>
        cases seconds with
        | nil =>
          simp only [List.map_cons, List.map_nil, List.intercalate_singleton] at same
          obtain ⟨rfl, rests⟩ := heads _ _ leftStops rightStops same
          exact ⟨rfl, rests⟩
        | cons third seconds =>
          simp only [List.map_cons, List.map_nil, List.intercalate_singleton,
            List.intercalate_cons_cons, List.append_assoc, List.cons_append, List.nil_append]
            at same
          obtain ⟨-, rest⟩ := heads _ _ leftStops (separated _) same
          exact absurd (by rw [rest]; rfl) leftEnds
      | cons third firsts =>
        cases seconds with
        | nil =>
          simp only [List.map_cons, List.map_nil, List.intercalate_singleton,
            List.intercalate_cons_cons, List.append_assoc, List.cons_append, List.nil_append]
            at same
          obtain ⟨-, rest⟩ := heads _ _ (separated _) rightStops same
          exact absurd (by rw [← rest]; rfl) rightEnds
        | cons fourth seconds =>
          simp only [List.map_cons, List.intercalate_cons_cons, List.append_assoc,
            List.cons_append, List.nil_append] at same
          obtain ⟨rfl, rest⟩ := heads _ _ (separated _) (separated _) same
          obtain ⟨others, rests⟩ := step
            (fun early inLeft late inRight => split early (.tail _ inLeft) late (.tail _ inRight))
            (List.cons_ne_nil _ _) (List.cons_ne_nil _ _) (List.cons.inj rest).2
          exact ⟨by rw [others], rests⟩

end FilmFinder.Text
