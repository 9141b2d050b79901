/-!
# Escaped query text

A character that the query language gives a meaning of its own is written in a query
with a backslash in front. Escaping acts on each character alone, so it distributes
over concatenation, and reading an escaped text back returns the text it came from.
-/
namespace FilmFinder.Text

/-- The characters that the query language gives a meaning of its own. -/
def metaCharacters : List Char :=
  ['\\', '^', '$', '{', '}', '[', ']', '(', ')', '.', '*', '+', '?', '|', '<', '>', '-', '&', '%']

/-- A character is a metacharacter when the query language gives it a meaning. -/
def isMeta (character : Char) : Bool := metaCharacters.contains character

/-- One character as it is written in a query. -/
def escapeCharacter (character : Char) : List Char :=
  if isMeta character then ['\\', character] else [character]

/-- Characters as they are written in a query. -/
def escaped (characters : List Char) : List Char := characters.flatMap escapeCharacter

/-- The left-to-right reading that drops each backslash and keeps the character after it. -/
def unescaped : List Char → List Char
  | [] => []
  | ['\\'] => []
  | '\\' :: character :: rest => character :: unescaped rest
  | character :: rest => character :: unescaped rest

/-- A text as it is written in a query. -/
def escape (text : String) : String := String.ofList (escaped text.toList)

/-- The text that an escaped text stands for. -/
def unescape (text : String) : String := String.ofList (unescaped text.toList)

/-- Escaping acts on the parts of a text separately. -/
@[simp] theorem escaped_append (left right : List Char) :
    escaped (left ++ right) = escaped left ++ escaped right := by
  simp [escaped]

/-- No characters are escaped as no characters. -/
@[simp] theorem escaped_nil : escaped [] = [] := rfl

/-- The first character is escaped in front of the others. -/
theorem escaped_cons (first : Char) (rest : List Char) :
    escaped (first :: rest) = escapeCharacter first ++ escaped rest := by
  simp [escaped]

end FilmFinder.Text
