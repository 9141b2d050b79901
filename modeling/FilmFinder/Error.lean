import FilmFinder.Duration
import FilmFinder.Field

/-!
# Failures

A search fails because of what was asked (a field, a page, the settings), because of the
engine, or because a payload is no record. A failure of the engine is transient when asking
again may succeed: the line broke, or the answer came too late.
-/
namespace FilmFinder

/-- A failure of the engine. -/
inductive EngineError where
  /-- The line to the engine failed. -/
  | transport (detail : String)
  /-- No answer came within a time. -/
  | timeout (limit : Duration)
  /-- The engine refused the query. -/
  | rejected (detail : String)
  /-- The answer is not laid out as an answer. -/
  | malformedReply (detail : String)
  deriving DecidableEq

namespace EngineError

/-- Asking again may succeed. -/
def isTransient : EngineError → Bool
  | .transport _ => true
  | .timeout _ => true
  | .rejected _ => false
  | .malformedReply _ => false

/-- The failure in words. -/
def message : EngineError → String
  | .transport detail => "transport failure: " ++ detail
  | .timeout limit => "query timed out after " ++ limit.text
  | .rejected detail => "query rejected: " ++ detail
  | .malformedReply detail => "malformed reply: " ++ detail

end EngineError

/-- A criterion that a field table does not admit. -/
inductive QueryError where
  /-- The table has no field of that name. -/
  | unknownField (field : String)
  /-- The field of that name is indexed in a way that does not take the criterion. -/
  | kindMismatch (field : String) (kind : FieldKind)
  deriving DecidableEq

/-- A failure of a search. -/
inductive SearchError where
  /-- A criterion is not admitted. -/
  | query (error : QueryError)
  /-- The page does not exist: its number is negative or it starts past every position. -/
  | invalidPage (page size : Int64)
  /-- The payload of a hit is no record. -/
  | undecodable (hit : String)
  /-- The settings do not allow a connection. -/
  | settings (detail : String)
  /-- The engine failed. -/
  | engine (error : EngineError)
  deriving DecidableEq

/-- The failure in words. -/
def SearchError.message : SearchError → String
  | .query (.unknownField field) => "Unknown search field '" ++ field ++ "'"
  | .query (.kindMismatch field kind) =>
    "Field '" ++ field ++ "' is indexed as " ++ kind.label ++ " and cannot take this criterion"
  | .invalidPage page size =>
    "Invalid pagination: page " ++ page.toInt.repr ++ ", size " ++ size.toInt.repr
  | .undecodable hit => "Failed to deserialize hit '" ++ hit ++ "'"
  | .settings detail => "Configuration error: " ++ detail
  | .engine error => "Search engine error: " ++ error.message

end FilmFinder
