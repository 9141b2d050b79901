import FilmFinder.Proofs.Json.Number

/-!
# Reading back written JSON

A value whose literals denote texts is read back from its text, whatever follows it, as long as
that continues no numeral. One value at a time is taken apart: a string by its characters, an array
and an object by their parts, and the fuel of the reader covers as many steps as the text has
characters.
-/
namespace FilmFinder

/-- A hexadecimal digit is read back. -/
theorem Text.hexadecimalValue?_digitChar {digit : Nat} (small : digit < 16) :
    hexadecimalValue? (Nat.digitChar digit) = some digit := by
  have each : ∀ digit < 16, hexadecimalValue? (Nat.digitChar digit) = some digit := by decide
  exact each digit small

namespace Json

variable {rest after : List Char} {units : List Nat}

/-- An escape letter is read as the unit that it stands for. -/
theorem readUnits?_letter {letter : Char} {unit : Nat} (known : escapedUnit? letter = some unit)
    (read : readUnits? rest = some (units, after)) :
    readUnits? ('\\' :: letter :: rest) = some (unit :: units, after) := by
  have notHexadecimal : letter ≠ 'u' := by
    rintro rfl
    contradiction
  rw [readUnits?]
  · simp only [known, read, bind, Option.bind]
  · rintro first second third fourth others rfl
    contradiction

/-- Four hexadecimal digits are read as the unit that they write. -/
theorem readUnits?_hexadecimal {unit : Nat} (small : unit < 0x10000)
    (read : readUnits? rest = some (units, after)) :
    readUnits? ('\\' :: 'u' :: (Text.hexadecimal 4 unit ++ rest)) =
      some (unit :: units, after) := by
  have digit (place : Nat) :
      Text.hexadecimalValue? (Nat.digitChar (place % 16)) = some (place % 16) :=
    Text.hexadecimalValue?_digitChar (Nat.mod_lt place (by decide))
  simp only [Text.hexadecimal, List.nil_append, List.cons_append, readUnits?, digit, read, bind,
    Option.bind, Option.some.injEq, Prod.mk.injEq, List.cons.injEq, and_true]
  omega

/-- A character that needs no escape is read as its code point. -/
theorem readUnits?_plain {character : Char} (noQuote : character ≠ '"')
    (noBackslash : character ≠ '\\') (noControl : ¬ character.toNat < 0x20)
    (read : readUnits? rest = some (units, after)) :
    readUnits? (character :: rest) = some (character.toNat :: units, after) := by
  rw [readUnits?.eq_def]
  split
  next => contradiction
  next same => exact absurd (List.cons.inj same).1 noQuote
  next same => exact absurd (List.cons.inj same).1 noBackslash
  next same => exact absurd (List.cons.inj same).1 noBackslash
  next same =>
    obtain ⟨rfl, rfl⟩ := List.cons.inj same
    have open_character : (decide (character.toNat < 0x20) || character == '\\') = false := by
      simp [noControl, noBackslash]
    rw [open_character]
    simp only [read, bind, Option.bind, Bool.false_eq_true, ↓reduceIte]

/-- A written character is read back as its code point. -/
theorem readUnits?_character (character : Char) (read : readUnits? rest = some (units, after)) :
    readUnits? (writtenCharacter character ++ rest) = some (character.toNat :: units, after) := by
  unfold writtenCharacter
  split
  next => exact readUnits?_letter rfl read
  next => exact readUnits?_letter rfl read
  next => exact readUnits?_letter rfl read
  next => exact readUnits?_letter rfl read
  next => exact readUnits?_letter rfl read
  next => exact readUnits?_letter rfl read
  next => exact readUnits?_letter rfl read
  next noQuote noBackslash _ _ _ _ _ =>
    split
    next control => exact readUnits?_hexadecimal (by omega) read
    next noControl => exact readUnits?_plain noQuote noBackslash noControl read

/-- The characters of a string literal are read back as their code points. -/
theorem readUnits?_text (text rest : List Char) :
    readUnits? (text.flatMap writtenCharacter ++ '"' :: rest) =
      some (text.map Char.toNat, rest) := by
  induction text with
  | nil => rw [List.flatMap_nil, List.nil_append, readUnits?, List.map_nil]
  | cons character text step =>
    rw [List.flatMap_cons, List.append_assoc, List.map_cons]
    exact readUnits?_character character step

/-- No character is half of a code point. -/
theorem whole_of_character (character : Char) :
    isLeading character.toNat = false ∧ isTrailing character.toNat = false := by
  have valid : character.toNat < 0xD800 ∨ 0xDFFF < character.toNat ∧ character.toNat < 0x110000 :=
    character.valid
  simp only [isLeading, isTrailing, Bool.and_eq_false_iff, decide_eq_false_iff_not]
  omega

/-- A code point in front of units is the character in front of theirs. -/
theorem joinUnits?_cons (character : Char) (units : List Nat) :
    joinUnits? (character.toNat :: units) = (joinUnits? units).map (character :: ·) := by
  obtain ⟨noLeading, noTrailing⟩ := whole_of_character character
  cases units with
  | nil => simp [joinUnits?, noLeading, noTrailing]
  | cons next units => simp [joinUnits?, noLeading, noTrailing]

/-- Code points of characters join to the characters. -/
theorem joinUnits?_text (text : List Char) : joinUnits? (text.map Char.toNat) = some text := by
  induction text with
  | nil => rfl
  | cons character text step => rw [List.map_cons, joinUnits?_cons, step, Option.map_some]

/-- A string literal is read back as the text that it denotes. -/
theorem readString?_text (text : String) (rest : List Char) :
    readString? (text.toList.flatMap writtenCharacter ++ '"' :: rest) = some (some text, rest) := by
  simp only [readString?, readUnits?_text, joinUnits?_text, Option.map_some, String.ofList_toList]

/-- A value that can be written: its literals denote texts and its numerals have digits. -/
inductive Legible : Json → Prop
  /-- The literal `null`. -/
  | null : Legible .null
  /-- A truth value. -/
  | bool (value : Bool) : Legible (.bool value)
  /-- A numeral with digits after its point. -/
  | number {numeral : Numeral} (digits : ∀ digit ∈ numeral.fraction, digit.isDigit = true) :
    Legible (.number numeral)
  /-- A literal that denotes a text. -/
  | string (text : String) : Legible (.ofText text)
  /-- An array of such values. -/
  | array {items : List Json} (legible : ∀ item ∈ items, Legible item) : Legible (.array items)
  /-- An object of such values under keys that denote texts. -/
  | object {members : List (String × Json)} (legible : ∀ member ∈ members, Legible member.2) :
    Legible (.record members)

/-- The JSON value of a finite number is legible. -/
theorem legible_ofFinite (value : Binary64.Finite) : (ofFinite value).Legible :=
  .number (NumberLayout.json.isDigit_of_mem_fraction value)

/-- The JSON value of an integer is legible. -/
theorem legible_ofInt (value : Int) : (ofInt value).Legible :=
  .number fun _ inside => nomatch inside

/-- A value is read back from its text, whatever follows it that continues no numeral. -/
def IsReadBack (value : Json) : Prop :=
  ∀ fuel rest, value.written.length ≤ fuel → Numeral.EndsBefore rest →
    readValue? fuel (value.written ++ rest) = some (value, rest)

/-- A text continues no numeral when it starts with a character that does not. -/
theorem endsBefore_cons {first : Char} (stops : Numeral.continues first = false)
    (rest : List Char) : Numeral.EndsBefore (first :: rest) := by
  intro character inside
  obtain rfl : first = character := Option.some.inj inside
  exact stops

/-- Nothing is skipped in front of a character that is no blank. -/
theorem skipGap_cons {first : Char} (solid : isGap first = false) (rest : List Char) :
    skipGap (first :: rest) = first :: rest := by
  rw [skipGap, List.dropWhile_cons, solid]
  rfl

/-- A character that a numeral can start with is no blank and no bracket. -/
theorem solid_of_start {first : Char} (start : first.isDigit = true ∨ first = '-') :
    isGap first = false ∧ first ≠ ']' := by
  rcases start with digit | rfl
  · have present : ¬ isGap first = true := by
      intro gap
      simp only [isGap, Bool.or_eq_true, beq_iff_eq] at gap
      rcases gap with ((rfl | rfl) | rfl) | rfl <;> exact absurd digit (by decide)
    refine ⟨by simpa using present, ?_⟩
    rintro rfl
    exact absurd digit (by decide)
  · decide

/-- A numeral starts with a digit or a minus sign. -/
theorem exists_start (numeral : Numeral) (plus : Bool) :
    ∃ first others, numeral.characters plus = first :: others ∧
      (first.isDigit = true ∨ first = '-') := by
  rw [characters_eq]
  cases numeral.negative with
  | true => exact ⟨'-', _, rfl, .inr rfl⟩
  | false =>
    obtain ⟨first, others, shape, digit⟩ := exists_first_digit numeral.whole
    rw [shape]
    exact ⟨first, _, rfl, .inl digit⟩

/-- The text of a value starts with a character that is no blank and closes no array. -/
theorem exists_solid (value : Json) :
    ∃ first others, value.written = first :: others ∧ isGap first = false ∧ first ≠ ']' := by
  cases value with
  | null => exact ⟨'n', _, rfl, by decide⟩
  | bool truth => cases truth <;> exact ⟨_, _, rfl, by decide⟩
  | number numeral =>
    obtain ⟨first, others, shape, start⟩ := exists_start numeral true
    exact ⟨first, others, shape, solid_of_start start⟩
  | string content => cases content <;> exact ⟨'"', _, rfl, by decide⟩
  | array items => exact ⟨'[', _, rfl, by decide⟩
  | object members => exact ⟨'\x7b', _, rfl, by decide⟩

/-- So does the text of the items of an array. -/
theorem exists_solid_items (item : Json) (items : List Json) :
    ∃ first others, writtenItems (item :: items) = first :: others ∧ isGap first = false ∧
      first ≠ ']' := by
  obtain ⟨first, others, shape, solid⟩ := item.exists_solid
  cases items with
  | nil =>
    rw [writtenItems, shape]
    exact ⟨first, _, rfl, solid⟩
  | cons next items =>
    rw [writtenItems, shape]
    exact ⟨first, _, rfl, solid⟩

/-- Reading a text that is not empty takes a step. -/
theorem exists_fuel {characters : List Char} {fuel : Nat} (enough : characters.length ≤ fuel)
    (present : ∃ first others, characters = first :: others) : ∃ left, fuel = left + 1 := by
  obtain ⟨first, others, rfl⟩ := present
  rw [List.length_cons] at enough
  exact ⟨fuel - 1, by omega⟩

/-- The text of a value is not empty. -/
theorem exists_written (value : Json) : ∃ first others, value.written = first :: others := by
  obtain ⟨first, others, shape, -⟩ := value.exists_solid
  exact ⟨first, others, shape⟩

/-- What starts like a numeral is read as one. -/
theorem readValue?_number {first : Char} (start : first.isDigit = true ∨ first = '-') (fuel : Nat)
    (rest : List Char) :
    readValue? (fuel + 1) (first :: rest) =
      (readNumber? (first :: rest)).map fun read => (.number read.1, read.2) := by
  have starts {character : Char} {others : List Char}
      (same : first :: rest = character :: others) :
      character.isDigit = true ∨ character = '-' := (List.cons.inj same).1 ▸ start
  rw [readValue?, skipGap_cons (solid_of_start start).1]
  split
  next same => exact absurd (starts same) (by decide)
  next same => exact absurd (starts same) (by decide)
  next same => exact absurd (starts same) (by decide)
  next same => exact absurd (starts same) (by decide)
  next same => exact absurd (starts same) (by decide)
  next same => exact absurd (starts same) (by decide)
  next => rfl

/-- A numeral is read back. -/
theorem isReadBack_number {numeral : Numeral}
    (digits : ∀ digit ∈ numeral.fraction, digit.isDigit = true) :
    IsReadBack (.number numeral) := by
  intro fuel rest enough ends
  obtain ⟨fuel, rfl⟩ := exists_fuel enough (exists_written _)
  have read := readNumber?_characters numeral true digits ends
  obtain ⟨first, others, shape, start⟩ := exists_start numeral true
  change readValue? (fuel + 1) (numeral.characters true ++ rest) = _
  rw [shape, List.cons_append] at read ⊢
  rw [readValue?_number start, read]
  rfl

/-- A string literal is read back. -/
theorem isReadBack_string (text : String) : IsReadBack (.ofText text) := by
  intro fuel rest enough ends
  obtain ⟨fuel, rfl⟩ := exists_fuel enough (exists_written _)
  have read := readString?_text text rest
  change readValue? (fuel + 1) ('"' :: (text.toList.flatMap writtenCharacter ++ ['"']) ++ rest) = _
  rw [List.cons_append, List.append_assoc, readValue?, skipGap_cons (by decide)]
  change (readString? _).map _ = _
  rw [List.singleton_append, read]
  rfl

/-- The rest of an array is read back when its items are. -/
theorem readItems?_written {items : List Json} (readBack : ∀ item ∈ items, IsReadBack item)
    (present : items ≠ []) {fuel : Nat} (enough : (writtenItems items).length ≤ fuel)
    (rest : List Char) :
    readItems? fuel (writtenItems items ++ rest) = some (items, rest) := by
  induction items generalizing fuel with
  | nil => exact absurd rfl present
  | cons item items step =>
    obtain ⟨first, others, shape, -⟩ := exists_solid_items item items
    obtain ⟨fuel, rfl⟩ := exists_fuel enough ⟨first, others, shape⟩
    cases items with
    | nil =>
      simp only [writtenItems, List.length_append, List.length_singleton] at enough
      have read := readBack item (.head _) fuel (']' :: rest) (by omega) (endsBefore_cons rfl rest)
      rw [writtenItems, List.append_assoc, readItems?]
      simp only [List.cons_append, List.nil_append, read, bind, Option.bind]
      rfl
    | cons next items =>
      simp only [writtenItems, List.length_append, List.length_cons] at enough
      have read := readBack item (.head _) fuel (',' :: (writtenItems (next :: items) ++ rest))
        (by omega) (endsBefore_cons rfl _)
      have others := step (fun other inside => readBack other (.tail _ inside))
        (List.cons_ne_nil _ _) (show _ ≤ fuel by omega)
      rw [writtenItems, List.append_assoc, List.cons_append, readItems?]
      simp only [read, bind, Option.bind]
      change (readItems? fuel _).map _ = _
      rw [others]
      rfl

/-- An array is read back when its items are. -/
theorem isReadBack_array {items : List Json} (readBack : ∀ item ∈ items, IsReadBack item) :
    IsReadBack (.array items) := by
  intro fuel rest enough ends
  obtain ⟨fuel, rfl⟩ := exists_fuel enough (exists_written _)
  change (writtenItems items).length + 1 ≤ fuel + 1 at enough
  change readValue? (fuel + 1) ('[' :: (writtenItems items ++ rest)) = _
  rw [readValue?, skipGap_cons (by decide)]
  cases items with
  | nil => rfl
  | cons item items =>
    have read := readItems?_written readBack (List.cons_ne_nil _ _)
      (Nat.le_of_succ_le_succ enough) rest
    obtain ⟨first, others, shape, solid, noBracket⟩ := exists_solid_items item items
    rw [shape, List.cons_append] at read ⊢
    simp only [skipGap_cons solid]
    split
    next same => exact absurd (List.cons.inj same).1 noBracket
    next =>
      rw [read]
      rfl

/-- The members of an object as they are held: each key with the literal that denotes it. -/
def keyed (members : List (String × Json)) : List (Option String × Json) :=
  members.map fun member => (some member.1, member.2)

/-- What stands in an object after its first member. -/
def writtenAfter (members : List (String × Json)) : List Char :=
  if members.isEmpty then ['\x7d'] else ',' :: writtenMembers (keyed members)

/-- The members of an object are the first one and what stands after it. -/
theorem writtenMembers_cons (member : String × Json) (members : List (String × Json)) :
    writtenMembers (keyed (member :: members)) =
      '"' :: (member.1.toList.flatMap writtenCharacter ++
        '"' :: ':' :: (member.2.written ++ writtenAfter members)) := by
  cases members <;> simp [keyed, writtenMembers, writtenString, writtenText, writtenAfter]

/-- What stands after a member continues no numeral. -/
theorem endsBefore_after (members : List (String × Json)) (rest : List Char) :
    Numeral.EndsBefore (writtenAfter members ++ rest) := by
  cases members <;> exact endsBefore_cons rfl _

/-- What is read of an object after a member of it. -/
def readAfter? (fuel : Nat) (member : Option String × Json) (rest : List Char) :
    Option (List (Option String × Json) × List Char) :=
  match skipGap rest with
  | '\x7d' :: rest => some ([member], rest)
  | ',' :: rest => (readMembers? fuel rest).map fun (members, rest) => (member :: members, rest)
  | _ => none

/-- A member is read back, and then what stands after it. -/
theorem readMembers?_member {key : String} {value : Json} {fuel : Nat} {rest : List Char}
    (read : readValue? fuel (value.written ++ rest) = some (value, rest)) :
    readMembers? (fuel + 1) ('"' :: (key.toList.flatMap writtenCharacter ++
        '"' :: ':' :: (value.written ++ rest))) =
      readAfter? fuel (some key, value) rest := by
  have keyRead := readString?_text key (':' :: (value.written ++ rest))
  rw [readMembers?, skipGap_cons (by decide)]
  simp only [keyRead, bind, Option.bind, skipGap_cons (show isGap ':' = false by decide), read]
  rfl

/-- The rest of an object is read back when its values are. -/
theorem readMembers?_written {members : List (String × Json)}
    (readBack : ∀ member ∈ members, IsReadBack member.2) (present : members ≠ []) {fuel : Nat}
    (enough : (writtenMembers (keyed members)).length ≤ fuel) (rest : List Char) :
    readMembers? fuel (writtenMembers (keyed members) ++ rest) = some (keyed members, rest) := by
  induction members generalizing fuel with
  | nil => exact absurd rfl present
  | cons member members step =>
    have shape := writtenMembers_cons member members
    obtain ⟨fuel, rfl⟩ := exists_fuel enough ⟨_, _, shape⟩
    rw [shape] at enough ⊢
    simp only [List.length_cons, List.length_append] at enough
    have read := readBack member (.head _) fuel (writtenAfter members ++ rest) (by omega)
      (endsBefore_after members rest)
    simp only [List.cons_append, List.append_assoc]
    rw [readMembers?_member read]
    cases members with
    | nil => rfl
    | cons next members =>
      have longer : (writtenAfter (next :: members)).length =
          (writtenMembers (keyed (next :: members))).length + 1 := rfl
      have others := step (fun other inside => readBack other (.tail _ inside))
        (List.cons_ne_nil _ _) (show _ ≤ fuel by omega)
      change (readMembers? fuel (writtenMembers (keyed (next :: members)) ++ rest)).map _ = _
      rw [others]
      rfl

/-- An object is read back when its values are. -/
theorem isReadBack_object {members : List (String × Json)}
    (readBack : ∀ member ∈ members, IsReadBack member.2) : IsReadBack (.record members) := by
  intro fuel rest enough ends
  obtain ⟨fuel, rfl⟩ := exists_fuel enough (exists_written _)
  change (writtenMembers (keyed members)).length + 1 ≤ fuel + 1 at enough
  change readValue? (fuel + 1) ('\x7b' :: (writtenMembers (keyed members) ++ rest)) = _
  rw [readValue?, skipGap_cons (by decide)]
  cases members with
  | nil => rfl
  | cons member members =>
    have read := readMembers?_written readBack (List.cons_ne_nil _ _)
      (Nat.le_of_succ_le_succ enough) rest
    rw [writtenMembers_cons, List.cons_append] at read ⊢
    simp only [skipGap_cons (show isGap '"' = false by decide)]
    change (readMembers? fuel _).map _ = _
    rw [read]
    rfl

/-- Every legible value is read back from its text. -/
theorem Legible.isReadBack {value : Json} (legible : value.Legible) : value.IsReadBack := by
  induction legible with
  | null =>
    intro fuel rest enough ends
    obtain ⟨fuel, rfl⟩ := exists_fuel enough (exists_written _)
    rfl
  | bool truth =>
    intro fuel rest enough ends
    obtain ⟨fuel, rfl⟩ := exists_fuel enough (exists_written _)
    cases truth <;> rfl
  | number digits => exact isReadBack_number digits
  | string text => exact isReadBack_string text
  | array legible step => exact isReadBack_array step
  | object legible step => exact isReadBack_object step

/-- Every legible value is read from its text. -/
theorem Legible.read?_write {value : Json} (legible : value.Legible) :
    read? value.write = some value := by
  have fuel : value.written.length ≤ 2 * value.written.length + 2 := by omega
  have ends : Numeral.EndsBefore [] := fun first inside => nomatch inside
  have read := legible.isReadBack _ [] fuel ends
  rw [List.append_nil] at read
  simp only [read?, write, String.toList_ofList, readCharacters?, read]
  rfl

end Json

end FilmFinder
