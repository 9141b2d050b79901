import FilmFinder.Criteria
import FilmFinder.Error
import FilmFinder.Number.Layout
import FilmFinder.Text.Escape

/-!
# Query text

Criteria become one query text: the free text as it stands, then a clause for each part of
the sets, then a clause for each interval, in the order in which they were added and with
one space between them. A set asked for as a whole gives one clause for each value. The
first criterion that the field table does not admit fails the query, sets before intervals.
-/
namespace FilmFinder

/-- One clause of a query. -/
inductive Clause where
  /-- A field has any of some values, or none of them when negated. -/
  | set (negated : Bool) (field : String) (kind : FieldKind) (values : List String)
  /-- A field lies in an interval. -/
  | range (field : String) (shape : RangeShape)
  deriving DecidableEq

namespace Clause

/-- Values in a clause: escaped, with a bar between them. -/
def valueCharacters (values : List String) : List Char :=
  ['|'].intercalate (values.map fun value => Text.escaped value.toList)

/-- A finite number in a clause. -/
def numberCharacters (value : Binary64.Finite) : List Char := NumberLayout.query.characters value

/-- An interval in a clause. Of two bounds the upper one comes first. -/
def shapeCharacters : RangeShape → List Char
  | .exact value => '(' :: numberCharacters value
  | .upperOnly upper => "-inf (".toList ++ numberCharacters upper
  | .lowerOnly lower => numberCharacters lower ++ " inf".toList
  | .bounded lower upper => numberCharacters upper ++ ' ' :: numberCharacters lower
  | .absent => []

/-- A field and what is asked of it, between the brackets of its kind. -/
def bracketed (field : String) (kind : FieldKind) (body : List Char) : List Char :=
  '@' :: field.toList ++ ':' :: kind.opening :: body ++ [kind.closing]

/-- The characters of a clause. -/
def characters : Clause → List Char
  | .set negated field kind values =>
    (if negated then ['-'] else []) ++ bracketed field kind (valueCharacters values)
  | .range field shape => bracketed field .numeric (shapeCharacters shape)

end Clause

/-- The field that a criterion names. -/
def FieldTable.field? (table : FieldTable) (name : String) : Except QueryError Field :=
  match table.find? name with
  | some field => .ok field
  | none => .error (.unknownField name)

/-- The clauses of a set over a field table: one for each value when all are asked for. -/
def SetCriterion.clauses? (table : FieldTable) (criterion : SetCriterion) :
    Except QueryError (List Clause) := do
  let field ← table.field? criterion.field
  if field.kind = .numeric then .error (.kindMismatch field.name field.kind)
  else
    .ok <|
      match criterion.operator with
      | .all => criterion.values.items.map fun value => .set false field.name field.kind [value]
      | .any => [.set false field.name field.kind criterion.values.items]
      | .none => [.set true field.name field.kind criterion.values.items]

/-- The clauses of an interval over a field table: none when it asks for nothing. -/
def RangeCriterion.clauses? (table : FieldTable) (criterion : RangeCriterion) :
    Except QueryError (List Clause) := do
  let field ← table.field? criterion.field
  if field.kind = .numeric then
    .ok (if criterion.shape = .absent then [] else [.range field.name criterion.shape])
  else .error (.kindMismatch field.name field.kind)

namespace Criteria

/-- The clauses of criteria over a field table: those of the sets, then those of the intervals. -/
def clauses? (table : FieldTable) (criteria : Criteria) : Except QueryError (List Clause) := do
  let sets ← criteria.sets.mapM (SetCriterion.clauses? table)
  let ranges ← criteria.ranges.mapM (RangeCriterion.clauses? table)
  .ok (sets.flatten ++ ranges.flatten)

/-- The characters of a query: its free text and its clauses with a space between them. -/
def queryCharacters (text : Option String) (clauses : List Clause) : List Char :=
  [' '].intercalate (text.toList.map String.toList ++ clauses.map Clause.characters)

/-- The query text of criteria over a field table. -/
def query? (table : FieldTable) (criteria : Criteria) : Except QueryError String := do
  let clauses ← criteria.clauses? table
  .ok (String.ofList (queryCharacters criteria.text clauses))

end Criteria

/-- The query text that matches every film. -/
def matchAll : String := "*"

/-- The query text that is sent for a text: a blank one matches every film. -/
def effectiveQuery (text : String) : String := if Text.trim text = "" then matchAll else text

end FilmFinder
