import FilmFinder.Proofs.Service.Search

/-!
# Histories of searches

Failures are queued and pages are searched, in any order, over one engine in memory. Each search
follows one law: a page that does not exist and criteria that are not admitted leave the engine
as it is, and every other search makes as many calls as the queue and the number of attempts ask
for. The law leaves nothing open, so a history is determined by it.
-/
namespace FilmFinder

variable {α : Type}

/-- What is done to an engine in memory. -/
inductive Operation where
  /-- A failure is queued. -/
  | queue (failure : EngineError)
  /-- A page of criteria is searched. -/
  | search (criteria : Criteria) (page size : Int64)

namespace Service

/-- Carry out an operation; a search has an outcome. -/
def perform (service : Service) (decode : String → Option α) (engine : MemoryEngine) :
    Operation → Option (Outcome α) × MemoryEngine
  | .queue failure => (none, engine.queue failure)
  | .search criteria page size =>
    let run := service.search MemoryEngine.engine decode criteria page size engine
    (some run.outcome, run.state)

/-- Carry out operations in order. -/
def performAll (service : Service) (decode : String → Option α) (engine : MemoryEngine) :
    List Operation → List (Option (Outcome α)) × MemoryEngine
  | [] => ([], engine)
  | operation :: operations =>
    let first := service.perform decode engine operation
    let rest := service.performAll decode first.2 operations
    (first.1 :: rest.1, rest.2)

/-- The law of one operation. -/
inductive Transition (service : Service) (decode : String → Option α) (attempts : Nat)
    (engine : MemoryEngine) : Operation → Option (Outcome α) → MemoryEngine → Prop
  /-- A queued failure is the last in the queue. -/
  | queued {failure : EngineError} :
    Transition service decode attempts engine (.queue failure) none
      { engine with failures := engine.failures ++ [failure] }
  /-- The page does not exist, whatever the criteria are. -/
  | invalid {criteria : Criteria} {page size : Int64} {error : SearchError}
    (refused : service.pager.request? page size = .error error) :
    Transition service decode attempts engine (.search criteria page size)
      (some (.failed (.invalidPage page size))) engine
  /-- The criteria are not admitted. -/
  | notAdmitted {criteria : Criteria} {page size : Int64} {request : PageRequest}
    {error : QueryError} (made : service.pager.request? page size = .ok request)
    (faulty : criteria.query? service.table = .error error) :
    Transition service decode attempts engine (.search criteria page size)
      (some (.failed (.query error))) engine
  /-- The queue has a failure for the last call. -/
  | failed {criteria : Criteria} {page size : Int64} {request : PageRequest} {query : String}
    {failure : EngineError} (made : service.pager.request? page size = .ok request)
    (compiled : criteria.query? service.table = .ok query)
    (enough : engine.tries attempts ≤ engine.failures.length)
    (last : engine.failures[engine.tries attempts - 1]? = some failure) :
    Transition service decode attempts engine (.search criteria page size)
      (some (.failed (.engine failure)))
      (engine.afterCalls (callOf query request) (engine.tries attempts))
  /-- The queue has no failure for the last call, and the hits of the page are read. -/
  | answered {criteria : Criteria} {page size : Int64} {request : PageRequest} {query : String}
    {outcome : Outcome α} (made : service.pager.request? page size = .ok request)
    (compiled : criteria.query? service.table = .ok query)
    (few : engine.failures.length < engine.tries attempts)
    (read : Materialized decode request engine.hits.length
      ((engine.hits.drop request.offset).take request.size) outcome) :
    Transition service decode attempts engine (.search criteria page size) (some outcome)
      (engine.afterCalls (callOf query request) (engine.tries attempts))

/-- The law of operations in order: each follows the law on the engine that those before it
left. -/
inductive Lawful (service : Service) (decode : String → Option α) (attempts : Nat) :
    MemoryEngine → List Operation → List (Option (Outcome α)) → MemoryEngine → Prop
  /-- No operation. -/
  | done {engine : MemoryEngine} : Lawful service decode attempts engine [] [] engine
  /-- An operation and those after it. -/
  | next {engine after final : MemoryEngine} {operation : Operation}
    {operations : List Operation} {outcome : Option (Outcome α)}
    {outcomes : List (Option (Outcome α))}
    (first : Transition service decode attempts engine operation outcome after)
    (rest : Lawful service decode attempts after operations outcomes final) :
    Lawful service decode attempts engine (operation :: operations) (outcome :: outcomes) final

variable {service : Service} {decode : String → Option α} {attempts : Nat}
  {engine : MemoryEngine}

/-- An operation leaves the hits as they are. -/
theorem Transition.hits_eq {operation : Operation} {outcome : Option (Outcome α)}
    {after : MemoryEngine}
    (law : service.Transition decode attempts engine operation outcome after) :
    after.hits = engine.hits := by
  cases law <;> rfl

/-- Operations leave the hits as they are. -/
theorem Lawful.hits_eq {operations : List Operation} {outcomes : List (Option (Outcome α))}
    {final : MemoryEngine}
    (law : service.Lawful decode attempts engine operations outcomes final) :
    final.hits = engine.hits := by
  induction law with
  | done => rfl
  | next first rest step => rw [step, first.hits_eq]

/-- The outcome of an answer is the one that the hits of the page give. -/
theorem materialized_answer {query : String} {request : PageRequest} {outcome : Outcome α} :
    Materialized decode request engine.hits.length
        ((engine.hits.drop request.offset).take request.size) outcome ↔
      (readPage decode request (engine.answer (callOf query request))).1 = outcome := by
  have hits : (engine.answer (callOf query request)).hits =
      (engine.hits.drop request.offset).take request.size := rfl
  rw [← materialized_iff, MemoryEngine.total_answer, hits]

/-- A search for a page that does not exist is refused. -/
theorem perform_of_refused {criteria : Criteria} {page size : Int64} {error : SearchError}
    (refused : service.pager.request? page size = .error error) :
    service.perform decode engine (.search criteria page size) =
      (some (.failed (.invalidPage page size)), engine) := by
  cases Pager.invalidPage_of_request? refused
  simp only [perform, search, refused]
  rfl

/-- A search for criteria that are not admitted is refused. -/
theorem perform_of_notAdmitted {criteria : Criteria} {page size : Int64} {request : PageRequest}
    {error : QueryError} (made : service.pager.request? page size = .ok request)
    (faulty : criteria.query? service.table = .error error) :
    service.perform decode engine (.search criteria page size) =
      (some (.failed (.query error)), engine) := by
  simp only [perform, search, made, searchPage, faulty]
  rfl

/-- Every other search ends as its last call does. -/
theorem perform_of_compiled (usable : service.backoff.Usable attempts) {criteria : Criteria}
    {page size : Int64} {request : PageRequest} {query : String}
    (made : service.pager.request? page size = .ok request)
    (compiled : criteria.query? service.table = .ok query) :
    service.perform decode engine (.search criteria page size) =
      (some (outcomeOf decode request
          (engine.outcomeAfter (callOf query request) (engine.tries attempts))),
        engine.afterCalls (callOf query request) (engine.tries attempts)) := by
  obtain ⟨ending, after⟩ := runQuery_of_usable usable decode query request engine
  simp only [perform, search, made, searchPage, compiled, ending, after]

/-- Carrying out an operation follows the law, and nothing else does. -/
theorem perform_eq_iff (usable : service.backoff.Usable attempts) {operation : Operation}
    {outcome : Option (Outcome α)} {after : MemoryEngine} :
    service.perform decode engine operation = (outcome, after) ↔
      service.Transition decode attempts engine operation outcome after := by
  constructor
  · intro done
    cases operation with
    | queue failure =>
      cases done
      exact .queued
    | search criteria page size =>
      cases made : service.pager.request? page size with
      | error error =>
        rw [perform_of_refused made] at done
        cases done
        exact .invalid made
      | ok request =>
        cases compiled : criteria.query? service.table with
        | error error =>
          rw [perform_of_notAdmitted made compiled] at done
          cases done
          exact .notAdmitted made compiled
        | ok query =>
          rw [perform_of_compiled usable made compiled] at done
          by_cases enough : engine.tries attempts ≤ engine.failures.length
          · have positive := engine.tries_pos usable.positive
            have last := List.getElem?_eq_getElem
              (show engine.tries attempts - 1 < engine.failures.length by omega)
            rw [MemoryEngine.outcomeAfter_of_last last] at done
            cases done
            exact .failed made compiled enough last
          · have few := Nat.lt_of_not_le enough
            rw [MemoryEngine.outcomeAfter_of_few few] at done
            cases done
            exact .answered made compiled few (materialized_answer.mpr rfl)
  · intro law
    cases law with
    | queued => rfl
    | invalid refused => exact perform_of_refused refused
    | notAdmitted made faulty => exact perform_of_notAdmitted made faulty
    | failed made compiled enough last =>
      rw [perform_of_compiled usable made compiled, MemoryEngine.outcomeAfter_of_last last]
      rfl
    | answered made compiled few read =>
      rw [perform_of_compiled usable made compiled, MemoryEngine.outcomeAfter_of_few few, outcomeOf,
        materialized_answer.mp read]

/-- Carrying out operations in order follows the law, and nothing else does. -/
theorem performAll_eq_iff (usable : service.backoff.Usable attempts) {operations : List Operation}
    {outcomes : List (Option (Outcome α))} {final : MemoryEngine} :
    service.performAll decode engine operations = (outcomes, final) ↔
      service.Lawful decode attempts engine operations outcomes final := by
  constructor
  · intro done
    induction operations generalizing engine outcomes with
    | nil =>
      cases done
      exact .done
    | cons operation operations step =>
      cases done
      exact .next ((perform_eq_iff usable).mp rfl) (step rfl)
  · intro law
    induction law with
    | done => rfl
    | next first rest step =>
      rw [performAll, (perform_eq_iff usable).mpr first, step]

/-- Searches over an engine in memory follow one law: with a usable rule for at most so many
attempts, operations in any order have the outcomes and the final engine that the law gives them,
and the law gives no others. The hits stay the same. -/
theorem performAll_lawful (service : Service) (decode : String → Option α) {attempts : Nat}
    (usable : service.backoff.Usable attempts) (engine : MemoryEngine)
    (operations : List Operation) :
    (∀ outcomes final, service.performAll decode engine operations = (outcomes, final) ↔
      service.Lawful decode attempts engine operations outcomes final) ∧
      (service.performAll decode engine operations).2.hits = engine.hits :=
  ⟨fun _ _ => performAll_eq_iff usable, ((performAll_eq_iff usable).mp rfl).hits_eq⟩

/-- With three attempts for each search, a failure that may pass and a refusal behind it end the
first search of an existing page after two calls. The next one gets the page of the first two
records, the page behind it has a payload that is none, and neither a page before the first nor a
field that the table does not know makes a call. -/
theorem performAll_lawful_twice :
    let service : Service := ⟨FieldTable.films, .of 20, .search 2⟩
    let decode (payload : String) : Option String := if payload = "" then none else some payload
    let engine := MemoryEngine.of [⟨"film:1", "one"⟩, ⟨"film:2", "two"⟩, ⟨"film:3", ""⟩]
    let unknown := Criteria.empty.set "budget" ["high"] .any
    let operations : List Operation :=
      [.queue (.transport "reset"), .queue (.rejected "syntax"), .search unknown (-1) 2,
        .search Criteria.empty 0 2, .search Criteria.empty 0 2, .search Criteria.empty 1 2,
        .search unknown 0 2]
    let first : PageRequest := ⟨0, 2, by decide, by decide⟩
    let outcomes : List (Option (Outcome String)) :=
      [none, none, some (.failed (.invalidPage (-1) 2)),
        some (.failed (.engine (.rejected "syntax"))), some (.page ⟨["one", "two"], first, 3⟩),
        some (.failed (.undecodable "film:3")),
        some (.failed (.query (.unknownField "budget")))]
    let final : MemoryEngine := ⟨engine.hits, [], List.replicate 3 ⟨"*", 0, 2⟩ ++ [⟨"*", 2, 2⟩]⟩
    service.backoff.Usable 3 ∧ service.performAll decode engine operations = (outcomes, final) ∧
      service.Lawful decode 3 engine operations outcomes final := by
  intro service decode engine unknown operations first outcomes final
  have usable : service.backoff.Usable 3 := ⟨rfl, by decide, by decide +kernel⟩
  have run : service.performAll decode engine operations = (outcomes, final) := by decide +kernel
  obtain ⟨law, -⟩ := performAll_lawful service decode usable engine operations
  exact ⟨usable, run, (law outcomes final).mp run⟩

end Service

end FilmFinder
