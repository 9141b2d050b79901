import FilmFinder.Backoff
import FilmFinder.Page

/-!
# Settings

Settings name the engine and its index, and hold the size of a page, the time limit of one
round trip, the number of further attempts and the fields of the index. Everything has a
default; settings without fields mean the film index.
-/
namespace FilmFinder

/-- The settings of a search service. -/
structure Settings where
  /-- The address of the engine, if one is given. -/
  address : Option String := none
  /-- A name in front of the index name, if one is given. -/
  indexSpace : Option String := none
  /-- The name of the index. -/
  indexName : String := "idx:movies"
  /-- The size of a page for which a request gives none. -/
  pageSize : UInt64 := 20
  /-- The time limit of one round trip in milliseconds; zero for none. -/
  limitMilliseconds : UInt64 := 5000
  /-- How many attempts follow a failed one. -/
  furtherAttempts : UInt64 := 0
  /-- The rows of the field table. -/
  rows : List FieldRow := []
  deriving DecidableEq

namespace Settings

/-- The name of the index with the name in front of it. -/
def fullIndexName (settings : Settings) : String :=
  settings.indexSpace.getD "" ++ settings.indexName

/-- The time limit of one round trip, if there is one. -/
def limit (settings : Settings) : Option Duration :=
  if settings.limitMilliseconds = 0 then none
  else some (.ofMilliseconds settings.limitMilliseconds.toNat)

/-- The field table; the film index when there are no rows. -/
def table (settings : Settings) : FieldTable :=
  if settings.rows.isEmpty then .films else .ofRows settings.rows

/-- The rule for page requests. -/
def pager (settings : Settings) : Pager := .of settings.pageSize.toNat

/-- The rule for attempts of a search. -/
def backoff (settings : Settings) : Backoff := .search settings.furtherAttempts.toNat

/-- The settings that a JSON value writes. -/
def ofJson? (value : Json) : Option Settings := do
  let record ← Record.of? 7 value
  let address ← record.field? 0 ["redis_url"] (Json.nullable? Json.text?) (some none)
  let indexSpace ← record.field? 1 ["redis_prefix"] (Json.nullable? Json.text?) (some none)
  let indexName ← record.field? 2 ["index_name"] Json.text? (some "idx:movies")
  let pageSize ← record.field? 3 ["default_page_size"] Json.word? (some 20)
  let limitMilliseconds ← record.field? 4 ["query_timeout_ms"] Json.word? (some 5000)
  let furtherAttempts ← record.field? 5 ["max_retries"] Json.word? (some 0)
  let rows ← record.field? 6 ["fields"] (Json.list? FieldRow.ofJson?) (some [])
  some { address, indexSpace, indexName, pageSize, limitMilliseconds, furtherAttempts, rows }

/-- The settings that a JSON text writes. -/
def ofText? (text : String) : Option Settings := (Json.read? text).bind ofJson?

end Settings

end FilmFinder
