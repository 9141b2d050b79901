import FilmFinder.Proofs.Text.Delimited

/-!
# Escaping is a faithful code

An escaped text reads back as the text it came from, and the texts that are escaped texts are those
that pair off from left to right: every backslash stands in front of a metacharacter, and no other
metacharacter stands outside such a pair. So a run of backslashes at the end of an escaped text is
used up in pairs, and the first metacharacter outside a pair is the delimiter behind the text.
-/
namespace FilmFinder.Text

/-- Characters that pair off from left to right: a backslash stands in front of a metacharacter,
and outside such pairs there is no metacharacter. -/
inductive Paired : List Char → Prop
  /-- No characters. -/
  | nil : Paired []
  /-- A backslash and a metacharacter, in front of characters that pair off. -/
  | pair {character : Char} {rest : List Char} (reserved : isMeta character = true)
    (others : Paired rest) : Paired ('\\' :: character :: rest)
  /-- A character that is no metacharacter, in front of characters that pair off. -/
  | plain {character : Char} {rest : List Char} (free : isMeta character = false)
    (others : Paired rest) : Paired (character :: rest)

/-- The position at which the left-to-right scan first meets a metacharacter outside a pair. -/
def looseAt? : List Char → Option Nat
  | [] => none
  | '\\' :: second :: rest =>
    if isMeta second then (looseAt? rest).map (· + 2) else some 0
  | first :: rest => if isMeta first then some 0 else (looseAt? rest).map (· + 1)

/-- The backslash is a metacharacter. -/
theorem isMeta_backslash : isMeta '\\' = true := by decide

/-- A character that is no metacharacter is no backslash. -/
theorem ne_backslash_of_free {character : Char} (free : isMeta character = false) :
    character ≠ '\\' := by
  rintro rfl
  exact absurd (isMeta_backslash.symm.trans free) (by decide)

/-- The scan passes over a pair. -/
theorem looseAt?_pair {character : Char} (reserved : isMeta character = true) (rest : List Char) :
    looseAt? ('\\' :: character :: rest) = (looseAt? rest).map (· + 2) := by
  rw [looseAt?, if_pos reserved]

/-- The scan passes over a character that is no metacharacter. -/
theorem looseAt?_plain {character : Char} (free : isMeta character = false) (rest : List Char) :
    looseAt? (character :: rest) = (looseAt? rest).map (· + 1) := by
  have different := ne_backslash_of_free free
  rw [looseAt?, if_neg (by rw [free]; decide)]
  exact fun _ _ same => absurd same different

/-- The scan stops at a delimiter. -/
theorem looseAt?_delimiter {delimiter : Char} (ends : IsDelimiter delimiter) (rest : List Char) :
    looseAt? (delimiter :: rest) = some 0 := by
  rw [looseAt?, if_pos ends.1]
  exact fun _ _ same => absurd same ends.2

/-- The scan passes over characters that pair off and goes on behind them. -/
theorem Paired.looseAt?_append {front : List Char} (paired : Paired front) (rest : List Char) :
    looseAt? (front ++ rest) = (looseAt? rest).map (· + front.length) := by
  induction paired with
  | nil => exact Option.map_id'.symm
  | @pair character others reserved _ step =>
    show looseAt? ('\\' :: character :: (others ++ rest)) = _
    rw [looseAt?_pair reserved, step, Option.map_map]
    rfl
  | @plain character others free _ step =>
    show looseAt? (character :: (others ++ rest)) = _
    rw [looseAt?_plain free, step, Option.map_map]
    rfl

/-- The scan meets no metacharacter outside a pair exactly when the characters pair off. -/
theorem looseAt?_eq_none_iff {characters : List Char} :
    looseAt? characters = none ↔ Paired characters := by
  constructor
  · intro passed
    fun_induction looseAt? characters with
    | case1 => exact .nil
    | case2 second rest reserved step =>
      exact .pair reserved (step (Option.map_eq_none_iff.mp passed))
    | case3 second rest free => contradiction
    | case4 first rest notPair reserved => contradiction
    | case5 first rest notPair free step =>
      exact .plain (Bool.eq_false_iff.mpr free) (step (Option.map_eq_none_iff.mp passed))
  · intro paired
    have passed := paired.looseAt?_append []
    rw [List.append_nil] at passed
    exact passed

/-- Escaped characters pair off. -/
theorem paired_escaped (characters : List Char) : Paired (escaped characters) := by
  induction characters with
  | nil => exact .nil
  | cons first rest step =>
    rw [escaped_cons, escapeCharacter]
    split
    next reserved => exact .pair reserved step
    next free => exact .plain (Bool.eq_false_iff.mpr free) step

/-- A character that is no metacharacter is read as itself. -/
theorem unescaped_plain {character : Char} (free : isMeta character = false) (rest : List Char) :
    unescaped (character :: rest) = character :: unescaped rest := by
  have different := ne_backslash_of_free free
  rw [unescaped]
  · exact fun same _ => absurd same different
  · exact fun _ _ same => absurd same different

/-- Escaped characters are read back. -/
theorem unescaped_escaped (characters : List Char) :
    unescaped (escaped characters) = characters := by
  induction characters with
  | nil => rfl
  | cons first rest step =>
    rw [escaped_cons, escapeCharacter]
    split
    next reserved =>
      show first :: unescaped (escaped rest) = _
      rw [step]
    next free =>
      show unescaped (first :: escaped rest) = _
      rw [unescaped_plain (Bool.eq_false_iff.mpr free), step]

/-- Characters that pair off are the escaped form of what they are read as. -/
theorem Paired.escaped_unescaped {characters : List Char} (paired : Paired characters) :
    escaped (unescaped characters) = characters := by
  induction paired with
  | nil => rfl
  | @pair character rest reserved _ step =>
    show escaped (character :: unescaped rest) = _
    rw [escaped_cons, escapeCharacter, if_pos reserved, step]
    rfl
  | @plain character rest free _ step =>
    rw [unescaped_plain free, escaped_cons, escapeCharacter, if_neg (by rw [free]; decide), step]
    rfl

/-- The characters of an escaped text are the escaped characters of the text. -/
theorem toList_escape (text : String) : (escape text).toList = escaped text.toList :=
  String.toList_ofList

/-- An escaped text is read back. -/
theorem unescape_escape (text : String) : unescape (escape text) = text := by
  rw [unescape, toList_escape, unescaped_escaped, String.ofList_toList]

/-- A text that pairs off is the escaped form of what it is read as. -/
theorem escape_unescape {written : String} (paired : Paired written.toList) :
    escape (unescape written) = written := by
  rw [escape, unescape, String.toList_ofList, paired.escaped_unescaped, String.ofList_toList]

/-- The escaped texts are the texts that pair off. -/
theorem exists_escape_iff {written : String} :
    (∃ text, escape text = written) ↔ Paired written.toList := by
  constructor
  · rintro ⟨text, rfl⟩
    rw [toList_escape]
    exact paired_escaped text.toList
  · exact fun paired => ⟨unescape written, escape_unescape paired⟩

/-- Parts of a text are escaped separately. -/
theorem escape_append (left right : String) :
    escape (left ++ right) = escape left ++ escape right := by
  apply String.toList_injective
  simp only [toList_escape, String.toList_append, escaped_append]

/-- Behind an escaped text, the scan first meets a metacharacter outside a pair at the delimiter. -/
theorem looseAt?_behind_escape (text rest : String) {delimiter : Char}
    (ends : IsDelimiter delimiter) :
    looseAt? (escape text ++ String.singleton delimiter ++ rest).toList =
      some (escape text).length := by
  have characters : (escape text ++ String.singleton delimiter ++ rest).toList =
      escaped text.toList ++ delimiter :: rest.toList := by
    simp [toList_escape]
  have size : (escape text).length = (escaped text.toList).length := by
    rw [← String.length_toList, toList_escape]
  rw [characters, (paired_escaped _).looseAt?_append, looseAt?_delimiter ends, size]
  exact congrArg some (Nat.zero_add _)

/-- Escaping is a faithful code. Reading an escaped text gives the text back. The escaped texts are
those in which the scan pairs every backslash with a metacharacter and meets no metacharacter
outside a pair; such a text is the escaped form of what it is read as. Parts are escaped separately,
and behind an escaped text the first metacharacter outside a pair is the delimiter, whatever follows
it. -/
theorem escape_faithful :
    (∀ text, unescape (escape text) = text) ∧
      (∀ written : String, (∃ text, escape text = written) ↔ Paired written.toList) ∧
      (∀ written : String, Paired written.toList ↔ looseAt? written.toList = none) ∧
      (∀ written : String, Paired written.toList → escape (unescape written) = written) ∧
      (∀ left right, escape (left ++ right) = escape left ++ escape right) ∧
      ∀ (text rest : String) (delimiter : Char), IsDelimiter delimiter →
        looseAt? (escape text ++ String.singleton delimiter ++ rest).toList =
          some (escape text).length :=
  ⟨unescape_escape, fun _ => exists_escape_iff, fun _ => looseAt?_eq_none_iff.symm,
    fun _ => escape_unescape, escape_append,
    fun text rest _ ends => looseAt?_behind_escape text rest ends⟩

/-- A text that ends with two backslashes does not swallow the bracket behind it, although a
backslash, a bracket and an escaped bracket follow. -/
theorem escape_faithful_backslashes :
    Paired "Sci\\-Fi\\\\\\\\".toList ∧
      escape (unescape "Sci\\-Fi\\\\\\\\") = "Sci\\-Fi\\\\\\\\" ∧
      IsDelimiter '\x7d' ∧
      looseAt? (escape "Sci-Fi\\\\" ++ String.singleton '\x7d' ++ "\\\x7d\\\\\x7d").toList =
        some (escape "Sci-Fi\\\\").length ∧
      (escape "Sci-Fi\\\\").length = 11 := by
  obtain ⟨-, -, scanned, restored, -, stops⟩ := escape_faithful
  have paired : Paired "Sci\\-Fi\\\\\\\\".toList := (scanned _).mpr (by decide +kernel)
  have ends : IsDelimiter '\x7d' := by decide
  exact ⟨paired, restored _ paired, ends, stops _ _ _ ends, by decide +kernel⟩

end FilmFinder.Text
