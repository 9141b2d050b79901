import FilmFinder.Json.Value
import FilmFinder.Number.Reading
import FilmFinder.Text.Bytes

/-!
# Reading JSON

JSON text is read strictly: blanks are the space, the tab and the two line ends, nothing
follows the value, and a string holds no control below the space. Numbers of any size and
values of any depth are read. A string literal with half of a character is read as one
without content.
-/
namespace FilmFinder

namespace Json

/-- A character that may stand between the parts of a JSON text. -/
def isGap (character : Char) : Bool :=
  character == ' ' || character == '\t' || character == '\n' || character == '\r'

/-- What follows the blanks at the front. -/
def skipGap (characters : List Char) : List Char := characters.dropWhile isGap

/-- The unit that an escape letter stands for. -/
def escapedUnit? (letter : Char) : Option Nat :=
  match letter with
  | '"' => some 0x22
  | '\\' => some 0x5C
  | '/' => some 0x2F
  | 'b' => some 0x08
  | 'f' => some 0x0C
  | 'n' => some 0x0A
  | 'r' => some 0x0D
  | 't' => some 0x09
  | _ => none

/-- The units of a string literal after its opening quote, and what follows it. A unit is a code
point, or half of one when four hexadecimal digits write half of one. -/
def readUnits? : List Char → Option (List Nat × List Char)
  | [] => none
  | '"' :: rest => some ([], rest)
  | '\\' :: 'u' :: first :: second :: third :: fourth :: rest => do
    let unit := ((← Text.hexadecimalValue? first) * 16 + (← Text.hexadecimalValue? second)) * 256 +
      ((← Text.hexadecimalValue? third) * 16 + (← Text.hexadecimalValue? fourth))
    let (units, rest) ← readUnits? rest
    some (unit :: units, rest)
  | '\\' :: letter :: rest => do
    let unit ← escapedUnit? letter
    let (units, rest) ← readUnits? rest
    some (unit :: units, rest)
  | character :: rest =>
    if character.toNat < 0x20 || character == '\\' then none
    else do
      let (units, rest) ← readUnits? rest
      some (character.toNat :: units, rest)

/-- The first half of a code point that takes two UTF-16 units. -/
def isLeading (unit : Nat) : Bool := 0xD800 ≤ unit && unit < 0xDC00

/-- The second half of a code point that takes two UTF-16 units. -/
def isTrailing (unit : Nat) : Bool := 0xDC00 ≤ unit && unit < 0xE000

/-- The characters that units stand for; none when a half stands without the other. -/
def joinUnits? : List Nat → Option (List Char)
  | [] => some []
  | [unit] =>
    if isLeading unit || isTrailing unit then none else some [Char.ofNat unit]
  | unit :: next :: units =>
    if isTrailing unit then none
    else if isLeading unit then
      if isTrailing next then
        (joinUnits? units).map
          (Char.ofNat (0x10000 + (unit - 0xD800) * 0x400 + (next - 0xDC00)) :: ·)
      else none
    else (joinUnits? (next :: units)).map (Char.ofNat unit :: ·)

/-- A string literal after its opening quote: the text it denotes, and what follows it. -/
def readString? (characters : List Char) : Option (Option String × List Char) :=
  (readUnits? characters).map fun (units, rest) => ((joinUnits? units).map String.ofList, rest)

/-- The digits after a point, if there is one, and what follows them. -/
def readFraction? : List Char → Option (List Char × List Char)
  | '.' :: rest => readDigits? rest
  | rest => some ([], rest)

/-- The power of ten at the front, if one is written, and what follows it. -/
def readScale? : List Char → Option (Option Int × List Char)
  | 'e' :: rest => (readExponent? rest).map fun (exponent, rest) => (some exponent, rest)
  | 'E' :: rest => (readExponent? rest).map fun (exponent, rest) => (some exponent, rest)
  | rest => some (none, rest)

/-- The digits before the point: a zero stands alone. -/
def readWhole? (characters : List Char) : Option (Nat × List Char) :=
  match readDigits? characters with
  | some ('0' :: _ :: _, _) => none
  | some (digits, rest) => some (digitsValue 0 digits, rest)
  | none => none

/-- A number without its sign, and what follows it. -/
def readMagnitude? (negative : Bool) (characters : List Char) : Option (Numeral × List Char) := do
  let (whole, rest) ← readWhole? characters
  let (fraction, rest) ← readFraction? rest
  let (exponent, rest) ← readScale? rest
  some (⟨negative, whole, fraction, exponent⟩, rest)

/-- A number, and what follows it. -/
def readNumber? : List Char → Option (Numeral × List Char)
  | '-' :: rest => readMagnitude? true rest
  | rest => readMagnitude? false rest

mutual

/-- A value after blanks, and what follows it. Each step of the fuel allows one more part. -/
def readValue? : (fuel : Nat) → List Char → Option (Json × List Char)
  | 0, _ => none
  | fuel + 1, characters =>
    match skipGap characters with
    | '"' :: rest => (readString? rest).map fun (content, rest) => (.string content, rest)
    | '[' :: rest =>
      match skipGap rest with
      | ']' :: rest => some (.array [], rest)
      | rest => (readItems? fuel rest).map fun (items, rest) => (.array items, rest)
    | '\x7b' :: rest =>
      match skipGap rest with
      | '\x7d' :: rest => some (.object [], rest)
      | rest => (readMembers? fuel rest).map fun (members, rest) => (.object members, rest)
    | 'n' :: 'u' :: 'l' :: 'l' :: rest => some (.null, rest)
    | 't' :: 'r' :: 'u' :: 'e' :: rest => some (.bool true, rest)
    | 'f' :: 'a' :: 'l' :: 's' :: 'e' :: rest => some (.bool false, rest)
    | rest => (readNumber? rest).map fun (numeral, rest) => (.number numeral, rest)

/-- The items of an array, at least one, up to its closing bracket, and what follows it. -/
def readItems? : (fuel : Nat) → List Char → Option (List Json × List Char)
  | 0, _ => none
  | fuel + 1, characters => do
    let (item, rest) ← readValue? fuel characters
    match skipGap rest with
    | ']' :: rest => some ([item], rest)
    | ',' :: rest => (readItems? fuel rest).map fun (items, rest) => (item :: items, rest)
    | _ => none

/-- The members of an object, at least one, up to its closing brace, and what follows it. -/
def readMembers? : (fuel : Nat) → List Char → Option (List (Option String × Json) × List Char)
  | 0, _ => none
  | fuel + 1, characters =>
    match skipGap characters with
    | '"' :: rest => do
      let (key, rest) ← readString? rest
      match skipGap rest with
      | ':' :: rest => do
        let (value, rest) ← readValue? fuel rest
        match skipGap rest with
        | '\x7d' :: rest => some ([(key, value)], rest)
        | ',' :: rest =>
          (readMembers? fuel rest).map fun (members, rest) => ((key, value) :: members, rest)
        | _ => none
      | _ => none
    | _ => none

end

/-- The value that some characters write, all of them. A part takes a character, and each part
takes at most two steps, so twice the length is fuel enough. -/
def readCharacters? (characters : List Char) : Option Json :=
  match readValue? (2 * characters.length + 2) characters with
  | some (value, rest) => if (skipGap rest).isEmpty then some value else none
  | none => none

/-- The value that a text writes. -/
def read? (text : String) : Option Json := readCharacters? text.toList

end Json

end FilmFinder
