import FilmFinder.Json.Reader
import FilmFinder.Json.Record
import FilmFinder.Keyed

/-!
# Indexed fields

The engine indexes a field as text, as tags or as numbers. The index decides which criteria
the field takes and which brackets stand around its values in a query. A field table holds
one field for each name: of rows with the same name the last one counts.
-/
namespace FilmFinder

/-- How a field is indexed. -/
inductive FieldKind where
  /-- As words of a text. -/
  | text
  /-- As whole tags. -/
  | tag
  /-- As numbers. -/
  | numeric
  deriving DecidableEq

namespace FieldKind

/-- The name of the kind in messages and in field rows. -/
def label : FieldKind → String
  | .text => "TEXT"
  | .tag => "TAG"
  | .numeric => "NUMERIC"

/-- The bracket in front of the values of a field. -/
def opening : FieldKind → Char
  | .text => '('
  | .tag => '\x7b'
  | .numeric => '['

/-- The bracket after the values of a field. -/
def closing : FieldKind → Char
  | .text => ')'
  | .tag => '\x7d'
  | .numeric => ']'

/-- The kind with a name. -/
def ofLabel? (label : String) : Option FieldKind :=
  [FieldKind.text, .tag, .numeric].find? fun kind => kind.label = label

/-- The kind that a JSON value names: as a string, or as the one key of an object that gives it
the value `null`. -/
def ofJson? : Json → Option FieldKind
  | .string (some label) => ofLabel? label
  | .object [(some label, .null)] => ofLabel? label
  | _ => none

end FieldKind

/-- What the index holds of a field. -/
inductive FieldIndex where
  /-- Words, with the weight of the field in the ranking. -/
  | text (weight : Binary64)
  /-- Tags. -/
  | tag
  /-- Numbers. -/
  | numeric
  deriving DecidableEq

/-- The kind of an index. -/
def FieldIndex.kind : FieldIndex → FieldKind
  | .text _ => .text
  | .tag => .tag
  | .numeric => .numeric

/-- The weight of an index; only text has one. -/
def FieldIndex.weight? : FieldIndex → Option Binary64
  | .text weight => some weight
  | _ => none

/-- A field that the engine indexes. -/
structure Field where
  /-- The name that criteria use. -/
  name : String
  /-- How the field is indexed. -/
  index : FieldIndex
  deriving DecidableEq

/-- The kind of a field. -/
def Field.kind (field : Field) : FieldKind := field.index.kind

/-- One row of a field table, as settings give it. -/
structure FieldRow where
  /-- The name of the field. -/
  name : String
  /-- How the field is indexed. -/
  kind : FieldKind
  /-- The weight in the ranking, if one is given. -/
  weight : Option Binary64
  deriving DecidableEq

namespace FieldRow

/-- The number one. -/
def defaultWeight : Binary64 := .ofNat 1

/-- The field that a row describes: text without a weight weighs one, and a weight given for
another kind means nothing. -/
def field (row : FieldRow) : Field :=
  match row.kind with
  | .text => ⟨row.name, .text (row.weight.getD defaultWeight)⟩
  | .tag => ⟨row.name, .tag⟩
  | .numeric => ⟨row.name, .numeric⟩

/-- The row that a JSON value writes. -/
def ofJson? (value : Json) : Option FieldRow := do
  let record ← Record.of? 3 value
  let name ← record.field? 0 ["name"] Json.text? none
  let kind ← record.field? 1 ["kind"] FieldKind.ofJson? none
  let weight ← record.field? 2 ["weight"] (Json.nullable? Json.finite?) (some none)
  some ⟨name, kind, weight.map .finite⟩

/-- The rows that a JSON text writes as an array. -/
def listOfText? (text : String) : Option (List FieldRow) :=
  (Json.read? text).bind (Json.list? ofJson?)

end FieldRow

/-- The fields that criteria may name. -/
abbrev FieldTable := Keyed Field Field.name

namespace FieldTable

/-- The table of fields declared one after another, each as text with a weight, as tags or as
numbers. -/
def ofFields (fields : List Field) : FieldTable := Keyed.ofList fields

/-- The table of rows. -/
def ofRows (rows : List FieldRow) : FieldTable := ofFields (rows.map FieldRow.field)

/-- The fields of the film index. -/
def films : FieldTable :=
  ofFields
    [⟨"title", .text (.ofNat 3)⟩, ⟨"description", .text (.ofNat 1)⟩,
      ⟨"director", .text (.ofNat 3)⟩, ⟨"genre", .tag⟩, ⟨"actors", .tag⟩, ⟨"year", .numeric⟩,
      ⟨"runtime", .numeric⟩, ⟨"rating", .numeric⟩, ⟨"votes", .numeric⟩, ⟨"revenue", .numeric⟩,
      ⟨"metascore", .numeric⟩]

/-- The table declares a name as numeric. -/
def isNumeric (table : FieldTable) (name : String) : Bool :=
  match table.find? name with
  | some field => field.kind == .numeric
  | none => false

end FieldTable

end FilmFinder
