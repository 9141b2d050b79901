import FilmFinder.Number.Layout
import FilmFinder.Text.Bytes

/-!
# JSON values

A JSON value keeps its numbers as the numerals they are written with, so a reader of one
decides what a number means, and its members in the order in which they are written, keys
given twice included. A string literal may hold half of a character that takes two UTF-16
units; such a literal denotes no text and is kept as one without content.

A value is written without blanks. In a string only the quote, the backslash and the controls
below the space are escaped; five controls have a short form and the others four hexadecimal
digits in lower case. A literal that denotes no text is written as half of a character.
-/
namespace FilmFinder

/-- A JSON value. -/
inductive Json where
  /-- The literal `null`. -/
  | null
  /-- The literal `true` or `false`. -/
  | bool (value : Bool)
  /-- A number, as it is written. -/
  | number (numeral : Numeral)
  /-- A string literal and the text it denotes, if it denotes one. -/
  | string (content : Option String)
  /-- An array of values. -/
  | array (items : List Json)
  /-- An object: the key literals and their values in order. -/
  | object (members : List (Option String × Json))

namespace Json

/-- A string literal of a text. -/
def ofText (text : String) : Json := .string (some text)

/-- The numeral of an integer. -/
def ofInt (value : Int) : Json := .number (.ofInt value)

/-- The numeral of a finite number. -/
def ofFinite (value : Binary64.Finite) : Json := .number (NumberLayout.json.numeral value)

/-- An object whose keys are texts. -/
def record (members : List (String × Json)) : Json :=
  .object (members.map fun member => (some member.1, member.2))

/-- One character as it stands in a string literal. -/
def writtenCharacter (character : Char) : List Char :=
  match character with
  | '"' => ['\\', '"']
  | '\\' => ['\\', '\\']
  | '\x08' => ['\\', 'b']
  | '\t' => ['\\', 't']
  | '\n' => ['\\', 'n']
  | '\x0c' => ['\\', 'f']
  | '\r' => ['\\', 'r']
  | _ =>
    if character.toNat < 0x20 then ['\\', 'u'] ++ Text.hexadecimal 4 character.toNat
    else [character]

/-- The string literal of a text. -/
def writtenText (text : List Char) : List Char :=
  '"' :: text.flatMap writtenCharacter ++ ['"']

/-- A string literal, of half a character when it denotes no text. -/
def writtenString : Option String → List Char
  | some text => writtenText text.toList
  | none => ['"', '\\', 'u', 'd', '8', '0', '0', '"']

mutual

/-- The characters of a value. -/
def written : Json → List Char
  | .null => ['n', 'u', 'l', 'l']
  | .bool true => ['t', 'r', 'u', 'e']
  | .bool false => ['f', 'a', 'l', 's', 'e']
  | .number numeral => numeral.characters true
  | .string content => writtenString content
  | .array items => '[' :: writtenItems items
  | .object members => '\x7b' :: writtenMembers members

/-- The characters of an array after its opening bracket. -/
def writtenItems : List Json → List Char
  | [] => [']']
  | [item] => written item ++ [']']
  | item :: next :: items => written item ++ ',' :: writtenItems (next :: items)

/-- The characters of an object after its opening brace. -/
def writtenMembers : List (Option String × Json) → List Char
  | [] => ['\x7d']
  | [(key, value)] => writtenString key ++ ':' :: written value ++ ['\x7d']
  | (key, value) :: next :: members =>
    writtenString key ++ ':' :: written value ++ ',' :: writtenMembers (next :: members)

end

/-- The text of a value. -/
def write (value : Json) : String := String.ofList value.written

end Json

end FilmFinder
