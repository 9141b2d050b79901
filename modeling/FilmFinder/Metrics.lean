import FilmFinder.Keyed

/-!
# Metrics

A service reports what happened in a search as a list of events. Counters count events by
name and labels; the sizes of pages and the measured round trips are samples.
-/
namespace FilmFinder

/-- How a query ended at the engine. -/
inductive QueryStatus where
  /-- The answer has hits. -/
  | success
  /-- The answer has no hits. -/
  | empty
  /-- The engine failed in a way that may pass. -/
  | error
  /-- The engine failed in a way that stays. -/
  | rejected
  deriving DecidableEq

/-- The label of a status. -/
def QueryStatus.label : QueryStatus → String
  | .success => "success"
  | .empty => "empty"
  | .error => "error"
  | .rejected => "rejected"

/-- Why criteria gave no query. -/
inductive CompileFault where
  /-- A field is unknown. -/
  | unknownField
  /-- A field does not take a criterion. -/
  | kindMismatch
  deriving DecidableEq

/-- The label of a reason. -/
def CompileFault.label : CompileFault → String
  | .unknownField => "unknown_field"
  | .kindMismatch => "kind_mismatch"

/-- Something that happened in a search. -/
inductive MetricEvent where
  /-- A query ended at an engine. -/
  | query (engine : String) (status : QueryStatus)
  /-- Criteria gave no query. -/
  | compileFault (reason : CompileFault)
  /-- A payload was no record. -/
  | badPayload
  /-- The time of a search at an engine was measured. -/
  | latency (engine : String)
  /-- A page of some items was returned. -/
  | pageSize (items : Nat)
  deriving DecidableEq

namespace MetricEvent

/-- The name and labels of the counter that counts an event, if one does. -/
def counter? : MetricEvent → Option String
  | .query engine status =>
    some ("movie_search_queries_total\x7bbackend=" ++ engine ++ ",status=" ++ status.label ++
      "\x7d")
  | .compileFault reason =>
    some ("movie_search_compile_errors_total\x7breason=" ++ reason.label ++ "\x7d")
  | .badPayload => some "movie_search_materialize_errors_total\x7b\x7d"
  | .latency _ => none
  | .pageSize _ => none

/-- The name and labels of the measure that an event is a sample of, if it is one. -/
def measure? : MetricEvent → Option String
  | .latency engine => some ("movie_search_seconds\x7bbackend=" ++ engine ++ "\x7d")
  | _ => none

/-- The number of items of a page, if an event tells it. -/
def items? : MetricEvent → Option Nat
  | .pageSize items => some items
  | _ => none

end MetricEvent

/-- Counts by name. -/
abbrev Tally := Keyed (String × Nat) Prod.fst

namespace Tally

/-- Count a name once more. -/
def count (tally : Tally) (name : String) : Tally :=
  tally.insert (name, ((tally.find? name).map Prod.snd).getD 0 + 1)

/-- How often each name stands in a list. -/
def ofNames (names : List String) : Tally := names.foldl count Keyed.empty

end Tally

/-- The counters after some events. -/
def counters (events : List MetricEvent) : Tally := .ofNames (events.filterMap MetricEvent.counter?)

/-- The numbers of samples of each measure after some events. -/
def sampleCounts (events : List MetricEvent) : Tally :=
  .ofNames (events.filterMap MetricEvent.measure?)

/-- The numbers of items of the pages returned, in ascending order. -/
def pageSizes (events : List MetricEvent) : List Nat :=
  (events.filterMap MetricEvent.items?).mergeSort (· ≤ ·)

end FilmFinder
