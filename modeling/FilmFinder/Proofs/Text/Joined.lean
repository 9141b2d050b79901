import FilmFinder.Text.Blank
import Mathlib.Data.List.DropRight

/-!
# Joined texts

Texts that are not empty are joined with a space between them. Nothing of a part is lost in the
joined text, parts may be joined group by group, and the joined text has a blank at an end only when
a part has one there, since a space stands between two parts only.
-/
namespace FilmFinder.Text

/-- Texts that are not empty join to the empty text only when there are none. -/
theorem intercalate_eq_empty_iff {parts : List String} (filled : ∀ part ∈ parts, part ≠ "") :
    " ".intercalate parts = "" ↔ parts = [] := by
  rcases parts with _ | ⟨part, _ | ⟨next, parts⟩⟩
  · simp
  · simpa using filled part (.head _)
  · simp [filled part (.head _)]

/-- Groups of texts that are not empty are joined group by group; empty groups leave no trace. -/
theorem intercalate_flatten {groups : List (List String)}
    (filled : ∀ group ∈ groups, ∀ part ∈ group, part ≠ "") :
    " ".intercalate groups.flatten =
      " ".intercalate ((groups.map " ".intercalate).filter (· ≠ "")) := by
  induction groups with
  | nil => rfl
  | cons group groups step =>
    have rest := step fun other inside => filled other (.tail _ inside)
    have restFilled : ∀ part ∈ groups.flatten, part ≠ "" := by
      intro part inside
      obtain ⟨other, otherInside, inside⟩ := List.mem_flatten.mp inside
      exact filled other (.tail _ otherInside) part inside
    have joinedFilled : ∀ part ∈ (groups.map " ".intercalate).filter (· ≠ ""), part ≠ "" := by
      intro part inside
      simpa using (List.mem_filter.mp inside).2
    have alone : groups.flatten = [] ↔ (groups.map " ".intercalate).filter (· ≠ "") = [] := by
      rw [← intercalate_eq_empty_iff restFilled, rest, intercalate_eq_empty_iff joinedFilled]
    rw [List.flatten_cons, List.map_cons]
    by_cases missing : group = []
    · subst missing
      simpa using rest
    · have joined : " ".intercalate group ≠ "" := fun empty =>
        missing ((intercalate_eq_empty_iff (filled group (.head _))).mp empty)
      rw [List.filter_cons_of_pos (by simpa using joined)]
      by_cases last : groups.flatten = []
      · rw [last, alone.mp last, List.append_nil, String.intercalate_singleton]
      · have more := fun none => last (alone.mpr none)
        rw [String.intercalate_append_of_ne_nil missing last,
          String.intercalate_cons_of_ne_nil more, rest]

/-- The characters of a part stand in the joined text. -/
theorem mem_intercalate {parts : List String} {part : String} (inside : part ∈ parts)
    {character : Char} (held : character ∈ part.toList) :
    character ∈ (" ".intercalate parts).toList := by
  induction parts with
  | nil => contradiction
  | cons first parts step =>
    by_cases last : parts = []
    · rw [last, List.mem_singleton] at inside
      rwa [last, String.intercalate_singleton, ← inside]
    · rw [String.intercalate_cons_of_ne_nil last, String.toList_append, String.toList_append,
        List.mem_append, List.mem_append]
      rcases List.mem_cons.mp inside with rfl | later
      · exact .inl (.inl held)
      · exact .inr (step later)

/-- A text is flush when no blank stands at either end. -/
def Flush (text : String) : Prop :=
  (∀ first ∈ text.toList.head?, isBlank first = false) ∧
    ∀ last ∈ text.toList.getLast?, isBlank last = false

/-- No run is dropped from a list exactly when the list does not start with one. -/
theorem dropWhile_eq_self_iff_head? {accept : Char → Bool} {characters : List Char} :
    characters.dropWhile accept = characters ↔
      ∀ first ∈ characters.head?, accept first = false := by
  cases characters <;> simp [List.dropWhile_eq_self_iff]

/-- Trimming changes a text exactly when a blank stands at an end. -/
theorem trim_eq_self_iff {text : String} : trim text = text ↔ Flush text := by
  have asList : trim text = text ↔ trimmed text.toList = text.toList := by
    rw [trim, ← String.toList_inj, String.toList_ofList]
  have backwards : (∀ last ∈ text.toList.getLast?, isBlank last = false) ↔
      text.toList.reverse.dropWhile isBlank = text.toList.reverse := by
    rw [dropWhile_eq_self_iff_head?, List.head?_reverse]
  rw [asList, Flush, backwards, ← dropWhile_eq_self_iff_head?]
  constructor
  · intro kept
    have front : text.toList.dropWhile isBlank = text.toList := by
      have shorter : (trimmed text.toList).length ≤ (text.toList.dropWhile isBlank).length :=
        (List.rdropWhile_prefix isBlank _).length_le
      have suffix := List.dropWhile_suffix (l := text.toList) isBlank
      rw [kept] at shorter
      exact suffix.eq_of_length (Nat.le_antisymm suffix.length_le shorter)
    rw [trimmed, front] at kept
    exact ⟨front, List.reverse_eq_iff.mp kept⟩
  · rintro ⟨front, back⟩
    rw [trimmed, front, back, List.reverse_reverse]

/-- A text is flush when its first and last characters are not blank. -/
theorem flush_of_ends {first last : Char} (middle : List Char) (solidFirst : isBlank first = false)
    (solidLast : isBlank last = false) : Flush (.ofList (first :: middle ++ [last])) := by
  constructor
  · intro character inside
    rw [String.toList_ofList, List.cons_append, List.head?_cons] at inside
    rwa [← Option.some.inj inside]
  · intro character inside
    rw [String.toList_ofList, List.getLast?_concat] at inside
    rwa [← Option.some.inj inside]

/-- Flush texts are flush when they are joined, unless they are empty. -/
theorem Flush.append {left right separator : String} (leftFlush : Flush left)
    (rightFlush : Flush right) (leftFilled : left ≠ "") (rightFilled : right ≠ "") :
    Flush (left ++ separator ++ right) := by
  have leftList : left.toList ≠ [] := by simpa using leftFilled
  have rightList : right.toList ≠ [] := by simpa using rightFilled
  constructor
  · rw [String.append_assoc, String.toList_append, List.head?_append_of_ne_nil _ leftList]
    exact leftFlush.1
  · rw [String.toList_append, List.getLast?_append_of_ne_nil _ rightList]
    exact rightFlush.2

/-- Flush texts that are not empty are flush when they are joined. -/
theorem flush_intercalate {parts : List String} (filled : ∀ part ∈ parts, part ≠ "")
    (flush : ∀ part ∈ parts, Flush part) : Flush (" ".intercalate parts) := by
  induction parts with
  | nil => exact ⟨nofun, nofun⟩
  | cons part parts step =>
    have restFilled : ∀ other ∈ parts, other ≠ "" := fun other inside =>
      filled other (.tail _ inside)
    have rest := step restFilled fun other inside => flush other (.tail _ inside)
    by_cases last : parts = []
    · rw [last, String.intercalate_singleton]
      exact flush part (.head _)
    · rw [String.intercalate_cons_of_ne_nil last]
      exact (flush part (.head _)).append rest (filled part (.head _))
        fun empty => last ((intercalate_eq_empty_iff restFilled).mp empty)

end FilmFinder.Text
