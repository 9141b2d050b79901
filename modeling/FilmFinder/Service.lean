import FilmFinder.Answer
import FilmFinder.Film
import FilmFinder.FilmFilter
import FilmFinder.Metrics
import FilmFinder.Settings

/-!
# The search service

A search asks for a page of criteria: the page request is checked, the criteria become a
query, the engine is asked until it answers or its failure stays, and the payloads become
records. The first stage that fails ends the search. A search leaves the engine in a new
state and reports its waits and events; the service itself never changes.
-/
namespace FilmFinder

/-- What a service is made of. -/
structure Service where
  /-- The fields that criteria may name. -/
  table : FieldTable
  /-- The rule for page requests. -/
  pager : Pager
  /-- The rule for repeated attempts. -/
  backoff : Backoff

/-- How a search ended. -/
inductive Outcome (α : Type) where
  /-- The page that was asked for. -/
  | page (page : Page α)
  /-- A failure. -/
  | failed (error : SearchError)
  /-- A wait could not be worked out. -/
  | broken (fault : DurationFault)
  /-- Another attempt was due when nobody looked any longer. -/
  | unfinished
  deriving DecidableEq

/-- What a search did. -/
structure SearchRun (σ α : Type) where
  /-- How the search ended. -/
  outcome : Outcome α
  /-- The state of the engine after the search. -/
  state : σ
  /-- The waits between the attempts, in order. -/
  waits : List Duration
  /-- What happened, in order. -/
  events : List MetricEvent

namespace Service

variable {σ α : Type}

/-- A service over a field table, with the usual page size and one attempt for each search. -/
def of (table : FieldTable) : Service := ⟨table, .of defaultPageSize, .search 0⟩

/-- The service that settings describe. -/
def ofSettings (settings : Settings) : Service :=
  ⟨settings.table, settings.pager, settings.backoff⟩

/-- A search that ends before the engine is asked. -/
def refused (error : SearchError) (events : List MetricEvent) (state : σ) : SearchRun σ α :=
  ⟨.failed error, state, [], events⟩

/-- The status that counts a failure of the engine. -/
def failureStatus (error : EngineError) : QueryStatus :=
  if error.isTransient then .error else .rejected

/-- The status that counts an answer. -/
def answerStatus (answer : Answer) : QueryStatus := if answer.hits.isEmpty then .empty else .success

/-- The page of an answer and what happens when it is read. -/
def readPage (decode : String → Option α) (request : PageRequest) (answer : Answer) :
    Outcome α × List MetricEvent :=
  match decodeHits decode answer.hits with
  | .ok records => (.page ⟨records, request, answer.total⟩, [.pageSize records.length])
  | .error error => (.failed error, [.badPayload])

/-- How many attempts are watched: all that the rule allows, or as many as the engine needs when
the rule knows no end. -/
def watched (service : Service) (engine : Engine σ) (state : σ) : Nat :=
  match service.backoff.attempts with
  | some attempts => Nat.max attempts 1
  | none => engine.patience state

/-- Ask the engine for a page of a query text as it stands. -/
def runQuery (service : Service) (engine : Engine σ) (decode : String → Option α) (query : String)
    (request : PageRequest) (state : σ) : SearchRun σ α :=
  let attempts := service.backoff.attempt EngineError.isTransient
    (engine.ask ⟨query, request.offset, request.size⟩) (service.watched engine state) state
  match attempts.ending with
  | .returned (.ok answer) =>
    let (outcome, events) := readPage decode request answer
    ⟨outcome, attempts.state, attempts.waits,
      [.latency engine.name, .query engine.name (answerStatus answer)] ++ events⟩
  | .returned (.error error) =>
    ⟨.failed (.engine error), attempts.state, attempts.waits,
      [.query engine.name (failureStatus error)]⟩
  | .broken fault => ⟨.broken fault, attempts.state, attempts.waits, []⟩
  | .unfinished => ⟨.unfinished, attempts.state, attempts.waits, []⟩

/-- The event that counts a criterion that is not admitted. -/
def faultEvent : QueryError → MetricEvent
  | .unknownField _ => .compileFault .unknownField
  | .kindMismatch _ _ => .compileFault .kindMismatch

/-- Search a page that is known to exist. -/
def searchPage (service : Service) (engine : Engine σ) (decode : String → Option α)
    (criteria : Criteria) (request : PageRequest) (state : σ) : SearchRun σ α :=
  match criteria.query? service.table with
  | .ok query => service.runQuery engine decode query request state
  | .error error => refused (.query error) [faultEvent error] state

/-- Search a page of criteria. -/
def search (service : Service) (engine : Engine σ) (decode : String → Option α)
    (criteria : Criteria) (page size : Int64) (state : σ) : SearchRun σ α :=
  match service.pager.request? page size with
  | .ok request => service.searchPage engine decode criteria request state
  | .error error => refused error [] state

/-- Search films by a free text. -/
def searchText (service : Service) (engine : Engine σ) (words : String) (page size : Int64)
    (state : σ) : SearchRun σ Film :=
  service.search engine Film.ofText? (Criteria.empty.withText words) page size state

/-- Search films by the values of one field. -/
def searchSet (service : Service) (engine : Engine σ) (field : String) (values : List String)
    (operator : Operator) (page size : Int64) (state : σ) : SearchRun σ Film :=
  service.search engine Film.ofText? (Criteria.empty.set field values operator) page size state

/-- Search the films of one year. -/
def searchYear (service : Service) (engine : Engine σ) (year : Int64) (page size : Int64)
    (state : σ) : SearchRun σ Film :=
  let value := some (Binary64.ofInt year.toInt)
  service.search engine Film.ofText? (Criteria.empty.range "year" value value) page size state

/-- Search films by a filled-in form. -/
def searchFilter (service : Service) (engine : Engine σ) (filter : FilmFilter) (page size : Int64)
    (state : σ) : SearchRun σ Film :=
  service.search engine Film.ofText? filter.criteria page size state

end Service

end FilmFinder
