import FilmFinder.Number.Layout
import FilmFinder.Text.Quoted
import FilmFinder.Text.Bytes

/-!
# Values on the wire

The values that an engine sends: nothing, integers, byte strings, lists, status lines,
dictionaries, numbers and error lines. Messages show a value by its kind and contents.
-/
namespace FilmFinder

/-- An error line of the engine: a code, and what follows its first space. -/
structure ErrorLine where
  /-- The code in front. -/
  code : String
  /-- What follows the code, if anything does. -/
  detail : Option String
  deriving DecidableEq

/-- The parts of an error line before and after its first space. -/
def ErrorLine.ofText (line : String) : ErrorLine :=
  let code := line.toList.takeWhile (· != ' ')
  match line.toList.dropWhile (· != ' ') with
  | _ :: detail => ⟨String.ofList code, some (String.ofList detail)⟩
  | [] => ⟨String.ofList code, none⟩

/-- The error line in a message. -/
def ErrorLine.shown (line : ErrorLine) : String :=
  match line.detail with
  | some detail => "Server error: \x60" ++ line.code ++ ": " ++ detail ++ "\x60"
  | none => "Server error: \x60" ++ line.code ++ "\x60"

/-- A value that an engine sends. -/
inductive WireValue where
  /-- Nothing. -/
  | nil
  /-- A signed 64-bit integer. -/
  | int (value : Int64)
  /-- A string of bytes. -/
  | bulk (bytes : ByteArray)
  /-- A list. -/
  | array (items : List WireValue)
  /-- A status line. -/
  | simple (text : String)
  /-- The status line for success. -/
  | okay
  /-- A dictionary. -/
  | map (entries : List (WireValue × WireValue))
  /-- A value with remarks about it. -/
  | attributed (value : WireValue) (remarks : List (WireValue × WireValue))
  /-- A list without order. -/
  | set (items : List WireValue)
  /-- A number. -/
  | double (value : Binary64)
  /-- A truth value. -/
  | boolean (value : Bool)
  /-- A text with the name of its format. -/
  | verbatim (format text : String)
  /-- An integer of any size. -/
  | big (value : Int)
  /-- A notice that answers no call. -/
  | notice (kind : String) (items : List WireValue)
  /-- An error line. -/
  | error (line : ErrorLine)

namespace WireValue

/-- Parts of a message with a comma between them. -/
def listed (parts : List String) : String := "[" ++ String.intercalate ", " parts ++ "]"

/-- Bytes in a message: quoted when they are text, else one by one. -/
def shownBytes (bytes : ByteArray) : String :=
  match Text.decodeUtf8 bytes with
  | .ok text => "bulk-string('" ++ Text.quote text ++ "')"
  | .error _ => "binary-data(" ++ listed (bytes.toList.map fun byte => byte.toNat.repr) ++ ")"

mutual

/-- A value in a message. -/
def shown : WireValue → String
  | .nil => "nil"
  | .int value => "int(" ++ value.toInt.repr ++ ")"
  | .bulk bytes => shownBytes bytes
  | .array items => "array(" ++ listed (shownItems items) ++ ")"
  | .simple text => "simple-string(" ++ Text.quote text ++ ")"
  | .okay => "ok"
  | .map entries => "map(" ++ listed (shownEntries entries) ++ ")"
  | .attributed value _ => "attribute(" ++ shown value ++ ")"
  | .set items => "set(" ++ listed (shownItems items) ++ ")"
  | .double value => "double(" ++ NumberLayout.message.text value ++ ")"
  | .boolean value => "boolean(" ++ (if value then "true" else "false") ++ ")"
  | .verbatim format text => "verbatim-string(" ++ format ++ "," ++ Text.quote text ++ ")"
  | .big value => "big-number(" ++ value.repr ++ ")"
  | .notice kind items => "push(" ++ kind ++ ", " ++ listed (shownItems items) ++ ")"
  | .error line => line.shown

/-- The values of a list in a message. -/
def shownItems : List WireValue → List String
  | [] => []
  | item :: items => shown item :: shownItems items

/-- The entries of a dictionary in a message. -/
def shownEntries : List (WireValue × WireValue) → List String
  | [] => []
  | (key, value) :: entries =>
    ("(" ++ shown key ++ ", " ++ shown value ++ ")") :: shownEntries entries

end

/-- A value that may be missing, in a message. -/
def shownOption : Option WireValue → String
  | some value => "Some(" ++ shown value ++ ")"
  | none => "None"

mutual

/-- The first error line in a value, at any depth. -/
def firstError? : WireValue → Option ErrorLine
  | .error line => some line
  | .array items => firstErrorOfItems? items
  | .set items => firstErrorOfItems? items
  | .notice _ items => firstErrorOfItems? items
  | .map entries => firstErrorOfEntries? entries
  | .attributed value remarks => (firstError? value).or (firstErrorOfEntries? remarks)
  | _ => none

/-- The first error line in the values of a list. -/
def firstErrorOfItems? : List WireValue → Option ErrorLine
  | [] => none
  | item :: items => (firstError? item).or (firstErrorOfItems? items)

/-- The first error line in the entries of a dictionary. -/
def firstErrorOfEntries? : List (WireValue × WireValue) → Option ErrorLine
  | [] => none
  | (key, value) :: entries =>
    ((firstError? key).or (firstError? value)).or (firstErrorOfEntries? entries)

end

end WireValue

end FilmFinder
