import FilmFinder.Proofs.Metrics
import FilmFinder.Proofs.Service.Search

/-!
# Accounts of searches

A search that ends does so in one of eight ways, and each way has its own events: none for a page
that does not exist, the reason for criteria that are not admitted, one query for a failure of the
engine, and for an answer one query with what became of the hits. Attempts that are made again leave
no trace. So the counters after any searches say how many of them ended in each way.
-/
namespace FilmFinder

variable {σ α : Type}

/-- The search ended: it returned a page or a failure. -/
def Outcome.Ended : Outcome α → Prop
  | .page _ => True
  | .failed _ => True
  | .broken _ => False
  | .unfinished => False

/-- A page was returned. -/
@[simp] def Outcome.isPage : Outcome α → Bool
  | .page _ => true
  | _ => false

/-- A failure of some kind was returned. -/
@[simp] def Outcome.isFailure (kind : SearchError → Bool) : Outcome α → Bool
  | .failed error => kind error
  | _ => false

namespace SearchError

/-- The page does not exist. -/
@[simp] def isInvalidPage : SearchError → Bool
  | .invalidPage _ _ => true
  | _ => false

/-- The criteria are not admitted. -/
@[simp] def isQuery : SearchError → Bool
  | .query _ => true
  | _ => false

/-- The criteria are not admitted for some reason. -/
@[simp] def isFault (reason : CompileFault) : SearchError → Bool
  | .query (.unknownField _) => reason = .unknownField
  | .query (.kindMismatch _ _) => reason = .kindMismatch
  | _ => false

/-- A payload is no record. -/
@[simp] def isUndecodable : SearchError → Bool
  | .undecodable _ => true
  | _ => false

/-- The engine failed, in a way that may pass or in a way that stays. -/
@[simp] def isEngine (transient : Bool) : SearchError → Bool
  | .engine error => error.isTransient = transient
  | _ => false

end SearchError

/-- What is asked of a service. -/
structure Request (α : Type) where
  /-- What films are wanted. -/
  criteria : Criteria
  /-- The number of the page. -/
  page : Int64
  /-- The size of the page. -/
  size : Int64
  /-- How a payload is read as a record. -/
  decode : String → Option α

/-- A search and the last reply of the engine in it, if the engine was asked. -/
structure Observed (σ α : Type) where
  /-- What the search did. -/
  run : SearchRun σ α
  /-- The last reply of the engine. -/
  reply : Option (Except EngineError Answer)

namespace Observed

/-- The last reply is an answer with hits, or one without. -/
@[simp] def isAnswered (matched : Bool) (search : Observed σ α) : Bool :=
  match search.reply with
  | some (.ok answer) => answer.hits.isEmpty != matched
  | _ => false

/-- The search got as far as the engine. -/
@[simp] def isAsked (search : Observed σ α) : Bool :=
  !search.run.outcome.isFailure fun error => error.isInvalidPage || error.isQuery

/-- A search that ended, with its events: one case for each way to end. -/
inductive Accounted (engine : String) : Observed σ α → Prop
  /-- The page does not exist. -/
  | invalidPage {page size : Int64} {state : σ} :
    Accounted engine ⟨⟨.failed (.invalidPage page size), state, [], []⟩, none⟩
  /-- A field is unknown. -/
  | unknownField {field : String} {state : σ} :
    Accounted engine
      ⟨⟨.failed (.query (.unknownField field)), state, [], [.compileFault .unknownField]⟩, none⟩
  /-- A field does not take a criterion. -/
  | kindMismatch {field : String} {kind : FieldKind} {state : σ} :
    Accounted engine
      ⟨⟨.failed (.query (.kindMismatch field kind)), state, [], [.compileFault .kindMismatch]⟩,
        none⟩
  /-- The engine failed in a way that may pass. -/
  | passing {failure : EngineError} {state : σ} {waits : List Duration}
    (passes : failure.isTransient = true) :
    Accounted engine
      ⟨⟨.failed (.engine failure), state, waits, [.query engine .error]⟩, some (.error failure)⟩
  /-- The engine failed in a way that stays. -/
  | staying {failure : EngineError} {state : σ} {waits : List Duration}
    (stays : failure.isTransient = false) :
    Accounted engine
      ⟨⟨.failed (.engine failure), state, waits, [.query engine .rejected]⟩,
        some (.error failure)⟩
  /-- The engine answered without hits. -/
  | empty {page : Page α} {total : Nat} {state : σ} {waits : List Duration} :
    Accounted engine
      ⟨⟨.page page, state, waits,
        [.latency engine, .query engine .empty, .pageSize page.items.length]⟩,
        some (.ok ⟨[], total⟩)⟩
  /-- The engine answered with hits, and every payload is a record. -/
  | page {page : Page α} {hit : Hit} {hits : List Hit} {total : Nat} {state : σ}
    {waits : List Duration} :
    Accounted engine
      ⟨⟨.page page, state, waits,
        [.latency engine, .query engine .success, .pageSize page.items.length]⟩,
        some (.ok ⟨hit :: hits, total⟩)⟩
  /-- The engine answered with hits, and a payload is no record. -/
  | undecodable {key : String} {hit : Hit} {hits : List Hit} {total : Nat} {state : σ}
    {waits : List Duration} :
    Accounted engine
      ⟨⟨.failed (.undecodable key), state, waits,
        [.latency engine, .query engine .success, .badPayload]⟩, some (.ok ⟨hit :: hits, total⟩)⟩

end Observed

namespace Service

/-- The last reply of the engine in a search with some waits; none when the engine is not asked. -/
def lastReply? (service : Service) (engine : Engine σ) (request : Request α) (waits : Nat)
    (state : σ) : Option (Except EngineError Answer) :=
  match service.pager.request? request.page request.size,
    request.criteria.query? service.table with
  | .ok page, .ok query => some (Backoff.nthOutcome (engine.ask (callOf query page)) waits state)
  | _, _ => none

/-- A search with the last reply of the engine. -/
def observe (service : Service) (engine : Engine σ) (state : σ) (request : Request α) :
    Observed σ α :=
  let run := service.search engine request.decode request.criteria request.page request.size state
  ⟨run, service.lastReply? engine request run.waits.length state⟩

/-- Searches one after another, each on the state of the engine that the one before it left. -/
def observeAll (service : Service) (engine : Engine σ) :
    σ → List (Request α) → List (Observed σ α)
  | _, [] => []
  | state, request :: requests =>
    let first := service.observe engine state request
    first :: service.observeAll engine first.run.state requests

variable {service : Service} {engine : Engine σ} {decode : String → Option α} {state : σ}

/-- Hits that do not decode are at least one, and the failure names one of them. -/
theorem exists_undecodable {hits : List Hit} {error : SearchError}
    (failed : decodeHits decode hits = .error error) :
    ∃ hit rest key, hits = hit :: rest ∧ error = .undecodable key := by
  rcases decoded_or_undecodable decode hits with
    ⟨records, all⟩ | ⟨earlier, hit, later, rfl, before, undecodable⟩
  · rw [decodeHits_of_decoded all] at failed
    contradiction
  · rw [decodeHits_of_undecodable before undecodable] at failed
    obtain ⟨first, rest, shape⟩ := List.exists_cons_of_ne_nil
      (show earlier ++ hit :: later ≠ [] by simp)
    exact ⟨first, rest, hit.key, shape, (Except.error.inj failed).symm⟩

/-- A query that ends does so as the last reply of the engine says. -/
theorem runQuery_of_ended {query : String} {page : PageRequest}
    (ended : (service.runQuery engine decode query page state).outcome.Ended) :
    ∃ after waits reply, service.runQuery engine decode query page state =
        ⟨outcomeOf decode page reply, after, waits, replyEvents engine.name decode page reply⟩ ∧
      Backoff.nthOutcome (engine.ask (callOf query page)) waits.length state = reply := by
  cases made : service.backoff.attempt EngineError.isTransient (engine.ask (callOf query page))
    (service.watched engine state) state with
  | mk after count waits ending =>
    cases ending with
    | returned reply =>
      exact ⟨after, waits, reply, runQuery_eq made rfl,
        service.backoff.nthOutcome_of_attempt _ made rfl⟩
    | broken fault =>
      unfold callOf at made
      simp only [runQuery, made] at ended
      contradiction
    | unfinished =>
      unfold callOf at made
      simp only [runQuery, made] at ended
      contradiction

/-- What a reply ends is accounted for with the reply. -/
theorem accounted_of_reply (engine : String) (decode : String → Option α) (page : PageRequest)
    (after : σ) (waits : List Duration) (reply : Except EngineError Answer) :
    Observed.Accounted engine
      ⟨⟨outcomeOf decode page reply, after, waits, replyEvents engine decode page reply⟩,
        some reply⟩ := by
  cases reply with
  | ok answer =>
    obtain ⟨hits, total⟩ := answer
    cases decoded : decodeHits decode hits with
    | ok records =>
      simp only [outcomeOf, replyEvents, readPage, decoded]
      cases hits with
      | nil => exact .empty
      | cons hit hits => exact .page
    | error error =>
      obtain ⟨hit, rest, key, rfl, rfl⟩ := exists_undecodable decoded
      simp only [outcomeOf, replyEvents, readPage, decoded]
      exact .undecodable
  | error failure =>
    simp only [outcomeOf, replyEvents, failureStatus]
    cases transient : failure.isTransient with
    | true => exact .passing transient
    | false => exact .staying transient

/-- A query that ends is accounted for with its last reply. -/
theorem accounted_runQuery {query : String} {page : PageRequest}
    (ended : (service.runQuery engine decode query page state).outcome.Ended) :
    Observed.Accounted engine.name
      ⟨service.runQuery engine decode query page state,
        some (Backoff.nthOutcome (engine.ask (callOf query page))
          (service.runQuery engine decode query page state).waits.length state)⟩ := by
  obtain ⟨after, waits, reply, run, last⟩ := runQuery_of_ended ended
  simp only [run, last]
  exact accounted_of_reply engine.name decode page after waits reply

/-- A search that ends is accounted for. -/
theorem accounted_observe {request : Request α}
    (ended : (service.observe engine state request).run.outcome.Ended) :
    (service.observe engine state request).Accounted engine.name := by
  unfold observe lastReply? search at *
  cases paged : service.pager.request? request.page request.size with
  | error error =>
    cases Pager.invalidPage_of_request? paged
    exact .invalidPage
  | ok page =>
    simp only [paged, searchPage] at ended ⊢
    cases compiled : request.criteria.query? service.table with
    | error error =>
      cases error with
      | unknownField field => exact .unknownField
      | kindMismatch field kind => exact .kindMismatch
    | ok query =>
      simp only [compiled] at ended ⊢
      exact accounted_runQuery ended

/-- A reply of the engine ends a search. -/
theorem ended_outcomeOf (decode : String → Option α) (page : PageRequest)
    (reply : Except EngineError Answer) : (outcomeOf decode page reply).Ended := by
  cases reply with
  | error failure => trivial
  | ok answer =>
    unfold outcomeOf readPage
    dsimp only
    cases decodeHits decode answer.hits with
    | ok records => trivial
    | error error => trivial

/-- With a usable rule for attempts every search ends, whatever the engine does. -/
theorem ended_of_usable {attempts : Nat} (usable : service.backoff.Usable attempts)
    (request : Request α) : (service.observe engine state request).run.outcome.Ended := by
  unfold observe search
  cases service.pager.request? request.page request.size with
  | error error => trivial
  | ok page =>
    simp only [searchPage]
    cases request.criteria.query? service.table with
    | error error => trivial
    | ok query =>
      have returns : ∃ outcome, (service.backoff.attempt EngineError.isTransient
          (engine.ask (callOf query page)) (service.watched engine state) state).ending =
            .returned outcome := by
        rw [watched_of_usable usable]
        exact usable.exists_returned usable.positive (Nat.zero_add attempts) rfl state
      obtain ⟨outcome, returned⟩ := returns
      change (service.runQuery engine request.decode query page state).outcome.Ended
      rw [runQuery_eq rfl returned]
      exact ended_outcomeOf request.decode page outcome

/-- With a usable rule for attempts all searches end, whatever the engine does. -/
theorem allEnded_of_usable {attempts : Nat} (usable : service.backoff.Usable attempts)
    (requests : List (Request α)) :
    ∀ search ∈ service.observeAll engine state requests, search.run.outcome.Ended := by
  induction requests generalizing state with
  | nil => exact fun _ inside => nomatch inside
  | cons request requests step =>
    exact List.forall_mem_cons.mpr ⟨ended_of_usable usable request, step⟩

/-- Searches that all end are all accounted for. -/
theorem accounted_observeAll {requests : List (Request α)}
    (ended : ∀ search ∈ service.observeAll engine state requests,
      search.run.outcome.Ended) :
    ∀ search ∈ service.observeAll engine state requests,
      search.Accounted engine.name := by
  induction requests generalizing state with
  | nil => exact fun _ inside => nomatch inside
  | cons request requests step =>
    rw [observeAll, List.forall_mem_cons] at ended ⊢
    exact ⟨accounted_observe ended.1, step ended.2⟩

end Service

/-- The events of searches at an engine that are counted. -/
def MetricEvent.everyCounted (engine : String) : List MetricEvent :=
  [query engine .success, query engine .empty, query engine .error, query engine .rejected,
    compileFault .unknownField, compileFault .kindMismatch, badPayload]

namespace Observed

variable {searches : List (Observed σ α)}

/-- What happened in searches, in order. -/
def allEvents (searches : List (Observed σ α)) : List MetricEvent :=
  searches.flatMap fun search => search.run.events

/-- Events that happen once in each search of some kind, and otherwise as often as others, happen
as often in all as there are searches of the kind and as the others happen. -/
theorem total_eq_countP {counted others : List MetricEvent} {kind : Observed σ α → Bool}
    (each : ∀ search ∈ searches, MetricEvent.total counted search.run.events =
      (kind search).toNat + MetricEvent.total others search.run.events) :
    MetricEvent.total counted (allEvents searches) =
      searches.countP kind + MetricEvent.total others (allEvents searches) := by
  induction searches with
  | nil =>
    rw [allEvents, List.flatMap_nil, MetricEvent.total_nil, MetricEvent.total_nil]
    rfl
  | cons search searches step =>
    rw [List.forall_mem_cons] at each
    have rest := step each.2
    have count : (search :: searches).countP kind = searches.countP kind + (kind search).toNat := by
      rw [List.countP_cons]
      cases kind search <;> rfl
    rw [allEvents, List.flatMap_cons, MetricEvent.total_append, MetricEvent.total_append, count,
      each.1]
    unfold allEvents at rest
    omega

/-- The counters after some searches at an engine say how many of them ended in each way. -/
structure Balanced (engine : String) (tally : Tally) (searches : List (Observed σ α)) : Prop where
  /-- Whatever its status, a query is counted for each search that got as far as the engine. -/
  queries : (MetricEvent.query engine .success).timesIn tally +
      (MetricEvent.query engine .empty).timesIn tally +
      (MetricEvent.query engine .error).timesIn tally +
      (MetricEvent.query engine .rejected).timesIn tally = searches.countP isAsked
  /-- The status of a failure that may pass is counted for each search that returned one. -/
  error : (MetricEvent.query engine .error).timesIn tally =
    searches.countP fun search => search.run.outcome.isFailure (SearchError.isEngine true)
  /-- The status of a failure that stays is counted for each search that returned one. -/
  rejected : (MetricEvent.query engine .rejected).timesIn tally =
    searches.countP fun search => search.run.outcome.isFailure (SearchError.isEngine false)
  /-- Success is counted for each search whose last reply has hits. -/
  success : (MetricEvent.query engine .success).timesIn tally = searches.countP (isAnswered true)
  /-- An empty result is counted for each search whose last reply has no hits. -/
  empty : (MetricEvent.query engine .empty).timesIn tally = searches.countP (isAnswered false)
  /-- A fault is counted for each search that returned it. -/
  fault : ∀ reason, (MetricEvent.compileFault reason).timesIn tally =
    searches.countP fun search => search.run.outcome.isFailure (SearchError.isFault reason)
  /-- A bad payload is counted for each search that returned it. -/
  badPayload : MetricEvent.badPayload.timesIn tally =
    searches.countP fun search => search.run.outcome.isFailure SearchError.isUndecodable
  /-- Answers are the pages that were returned and the bad payloads. -/
  answers : (MetricEvent.query engine .success).timesIn tally +
      (MetricEvent.query engine .empty).timesIn tally =
    searches.countP (fun search => search.run.outcome.isPage) +
      MetricEvent.badPayload.timesIn tally
  /-- No other counter is there. -/
  only : ∀ name entry, tally.find? name = some entry →
    ∃ event ∈ MetricEvent.everyCounted engine, event.counter? = some name
  /-- Nothing happened in a search for a page that does not exist. -/
  invalid : ∀ search ∈ searches, search.run.outcome.isFailure SearchError.isInvalidPage = true →
    search.run.events = []

variable {engine : String} (accounted : ∀ search ∈ searches, search.Accounted engine)

/-- What happens in a search that ended and has a counter is one of the events that are counted. -/
theorem mem_everyCounted {search : Observed σ α} (ended : search.Accounted engine) :
    ∀ event ∈ search.run.events, event.counter?.isSome = true →
      event ∈ MetricEvent.everyCounted engine := by
  cases ended <;> simp [MetricEvent.everyCounted, MetricEvent.counter?]

include accounted

/-- An event that happens once in each search of some kind, and in no other, is counted for each
search of the kind. -/
theorem timesIn_eq_countP {event : MetricEvent} {name : String}
    (named : event.counter? = some name) {kind : Observed σ α → Bool}
    (each : ∀ search : Observed σ α, search.Accounted engine →
      search.run.events.count event = (kind search).toNat) :
    event.timesIn (counters (allEvents searches)) = searches.countP kind := by
  have happened : MetricEvent.total [event] (allEvents searches) =
      searches.countP kind + MetricEvent.total [] (allEvents searches) :=
    total_eq_countP fun search inside => each search (accounted search inside)
  rw [MetricEvent.timesIn_counters _ named]
  exact happened

/-- Whatever its status, a query is counted for each search that got as far as the engine. -/
theorem queries_eq_countP :
    (MetricEvent.query engine .success).timesIn (counters (allEvents searches)) +
        (MetricEvent.query engine .empty).timesIn (counters (allEvents searches)) +
        (MetricEvent.query engine .error).timesIn (counters (allEvents searches)) +
        (MetricEvent.query engine .rejected).timesIn (counters (allEvents searches)) =
      searches.countP isAsked := by
  let queries : List MetricEvent :=
    [.query engine .success, .query engine .empty, .query engine .error, .query engine .rejected]
  have each (search : Observed σ α) (ended : search.Accounted engine) :
      MetricEvent.total queries search.run.events = search.isAsked.toNat := by
    cases ended <;> simp [queries, MetricEvent.total]
  have happened : MetricEvent.total queries (allEvents searches) =
      searches.countP isAsked + MetricEvent.total [] (allEvents searches) :=
    total_eq_countP fun search inside => each search (accounted search inside)
  have counted (status : QueryStatus) :
      (MetricEvent.query engine status).timesIn (counters (allEvents searches)) =
        (allEvents searches).count (.query engine status) :=
    MetricEvent.timesIn_counters _ rfl
  simp only [queries, MetricEvent.total] at happened
  simp only [counted]
  omega

/-- Answers are the pages that were returned and the bad payloads. -/
theorem answers_eq_countP :
    (MetricEvent.query engine .success).timesIn (counters (allEvents searches)) +
        (MetricEvent.query engine .empty).timesIn (counters (allEvents searches)) =
      searches.countP (fun search => search.run.outcome.isPage) +
        MetricEvent.badPayload.timesIn (counters (allEvents searches)) := by
  have each (search : Observed σ α) (ended : search.Accounted engine) :
      MetricEvent.total [.query engine .success, .query engine .empty] search.run.events =
        search.run.outcome.isPage.toNat + MetricEvent.total [.badPayload] search.run.events := by
    cases ended <;> simp [MetricEvent.total]
  have happened : MetricEvent.total [.query engine .success, .query engine .empty]
      (allEvents searches) =
        searches.countP (fun search => search.run.outcome.isPage) +
          MetricEvent.total [.badPayload] (allEvents searches) :=
    total_eq_countP fun search inside => each search (accounted search inside)
  rw [MetricEvent.timesIn_counters _ rfl, MetricEvent.timesIn_counters _ rfl,
    MetricEvent.timesIn_counters _ rfl]
  exact happened

/-- The counters after searches that are accounted for are balanced. -/
theorem balanced_of_accounted : Balanced engine (counters (allEvents searches)) searches where
  queries := queries_eq_countP accounted
  error := timesIn_eq_countP accounted rfl fun search ended => by cases ended <;> simp [*]
  rejected := timesIn_eq_countP accounted rfl fun search ended => by cases ended <;> simp [*]
  success := timesIn_eq_countP accounted rfl fun search ended => by cases ended <;> simp
  empty := timesIn_eq_countP accounted rfl fun search ended => by cases ended <;> simp
  fault := fun reason =>
    timesIn_eq_countP accounted rfl fun search ended => by
      cases reason <;> cases ended <;> simp
  badPayload := timesIn_eq_countP accounted rfl fun search ended => by cases ended <;> simp
  answers := answers_eq_countP accounted
  only := by
    intro name entry found
    refine Classical.byContradiction fun other => ?_
    have absent : ∀ event ∈ allEvents searches, event.counter? ≠ some name := by
      intro event happened named
      obtain ⟨search, inside, happened⟩ := List.mem_flatMap.mp happened
      have some : event.counter?.isSome = true := by rw [named, Option.isSome_some]
      exact other ⟨event, mem_everyCounted (accounted search inside) event happened some, named⟩
    rw [MetricEvent.find?_counters_of_none absent] at found
    contradiction
  invalid := by
    intro search inside page
    cases accounted search inside with
    | invalidPage => rfl
    | _ => contradiction

end Observed

/-- Metrics account for every search: after any searches on a service with any engine, one after
another, of which each ended, the counters of what happened are balanced. -/
theorem Service.metrics_balanced (service : Service) (engine : Engine σ) (state : σ)
    (requests : List (Request α))
    (ended : ∀ search ∈ service.observeAll engine state requests,
      search.run.outcome.Ended) :
    Observed.Balanced engine.name
      (counters (Observed.allEvents (service.observeAll engine state requests)))
      (service.observeAll engine state requests) :=
  Observed.balanced_of_accounted (accounted_observeAll ended)

/-- One search of each way to end, with two attempts for each: a page that does not exist, an
unknown field, a field of another kind, a failure that may pass and one behind it that stays, two
failures that may pass, a page, a payload that is no record, and no hits. -/
theorem Service.metrics_balanced_each :
    let service : Service := ⟨FieldTable.films, .of 20, .search 1⟩
    let state : MemoryEngine :=
      ⟨[⟨"movie:1", "1917"⟩, ⟨"movie:2", ""⟩],
        [.transport "reset", .rejected "syntax", .transport "reset", .transport "closed"], []⟩
    let ask (criteria : Criteria) (page size : Int64) : Request String :=
      ⟨criteria, page, size, fun payload => if payload = "" then none else some payload⟩
    let requests :=
      [ask .empty (-1) 10, ask (.withRange .empty (.of "budget" none none)) 0 10,
        ask (.withRange .empty (.of "genre" none none)) 0 10, ask .empty 0 1, ask .empty 0 1,
        ask .empty 0 1, ask .empty 0 10, ask .empty 5 10]
    let searches := service.observeAll MemoryEngine.engine state requests
    (∀ search ∈ searches, search.run.outcome.Ended) ∧
      Observed.Balanced "memory" (counters (Observed.allEvents searches)) searches ∧
      searches.countP Observed.isAsked = 5 := by
  intro service state ask requests searches
  have usable : service.backoff.Usable 2 := ⟨rfl, by decide, by decide +kernel⟩
  have ended : ∀ search ∈ searches, search.run.outcome.Ended :=
    allEnded_of_usable usable requests
  exact ⟨ended, metrics_balanced service MemoryEngine.engine state requests ended,
    by decide +kernel⟩

end FilmFinder
