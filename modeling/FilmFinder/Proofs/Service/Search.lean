import FilmFinder.Proofs.Engine.Attempts
import FilmFinder.Proofs.Page
import FilmFinder.Service

/-!
# One search

A search ends the way its last attempt does: a failure of the engine is returned as it is, and
an answer is read hit by hit, which gives a page of all records or names the first hit that is
none. A page that does not exist is refused before the criteria are looked at.
-/
namespace FilmFinder

/-- The outcome of reading hits for a page. -/
inductive Materialized {α : Type} (decode : String → Option α) (request : PageRequest)
    (total : Nat) : List Hit → Outcome α → Prop
  /-- Every payload is a record, and the page holds the records in the order of the hits. -/
  | page {hits : List Hit} {records : List α}
    (decoded : hits.map (fun hit => decode hit.payload) = records.map some) :
    Materialized decode request total hits (.page ⟨records, request, total⟩)
  /-- A payload is no record, and the failure names the first such hit. -/
  | failed {earlier later : List Hit} {hit : Hit}
    (decoded : ∀ other ∈ earlier, (decode other.payload).isSome = true)
    (undecodable : decode hit.payload = none) :
    Materialized decode request total (earlier ++ hit :: later) (.failed (.undecodable hit.key))

variable {σ α : Type}

/-- Hits whose payloads all are records give the records. -/
theorem decodeHits_of_decoded {decode : String → Option α} {hits : List Hit} {records : List α}
    (decoded : hits.map (fun hit => decode hit.payload) = records.map some) :
    decodeHits decode hits = .ok records := by
  induction hits generalizing records with
  | nil =>
    obtain rfl : records = [] := by simpa using decoded.symm
    rfl
  | cons hit hits step =>
    cases records with
    | nil => simp at decoded
    | cons record records =>
      simp only [List.map_cons, List.cons.injEq] at decoded
      simp only [decodeHits, decoded.1, step decoded.2]

/-- The first payload that is no record is named. -/
theorem decodeHits_of_undecodable {decode : String → Option α}
    {earlier later : List Hit} {hit : Hit}
    (decoded : ∀ other ∈ earlier, (decode other.payload).isSome = true)
    (undecodable : decode hit.payload = none) :
    decodeHits decode (earlier ++ hit :: later) = .error (.undecodable hit.key) := by
  induction earlier with
  | nil =>
    change decodeHits decode (hit :: later) = _
    rw [decodeHits, undecodable]
  | cons first earlier step =>
    obtain ⟨record, present⟩ := Option.isSome_iff_exists.mp (decoded first (.head _))
    have rest := step fun other inside => decoded other (.tail _ inside)
    rw [List.cons_append, decodeHits, present, rest]

/-- Either all hits decode, or one of them is the first that does not. -/
theorem decoded_or_undecodable (decode : String → Option α) (hits : List Hit) :
    (∃ records : List α, hits.map (fun hit => decode hit.payload) = records.map some) ∨
      ∃ earlier hit later, hits = earlier ++ hit :: later ∧
        (∀ other ∈ earlier, (decode other.payload).isSome = true) ∧ decode hit.payload = none := by
  induction hits with
  | nil => exact .inl ⟨[], rfl⟩
  | cons hit hits step =>
    cases decoded : decode hit.payload with
    | none =>
      exact .inr ⟨[], hit, hits, rfl, fun _ inside => absurd inside List.not_mem_nil, decoded⟩
    | some record =>
      rcases step with ⟨records, all⟩ | ⟨earlier, bad, later, rfl, before, undecodable⟩
      · refine .inl ⟨record :: records, ?_⟩
        rw [List.map_cons, List.map_cons, decoded, all]
      · refine .inr ⟨hit :: earlier, bad, later, rfl, ?_, undecodable⟩
        refine List.forall_mem_cons.mpr ⟨?_, before⟩
        rw [decoded]
        rfl

/-- A page is read from an answer hit by hit. -/
theorem Service.materialized_iff {decode : String → Option α} {request : PageRequest}
    {answer : Answer} {outcome : Outcome α} :
    Materialized decode request answer.total answer.hits outcome ↔
      (readPage decode request answer).1 = outcome := by
  obtain ⟨hits, total⟩ := answer
  change Materialized decode request total hits outcome ↔ _
  constructor
  · intro read
    cases read with
    | page decoded => simp only [readPage, decodeHits_of_decoded decoded]
    | failed decoded undecodable =>
      simp only [readPage, decodeHits_of_undecodable decoded undecodable]
  · rintro rfl
    rcases decoded_or_undecodable decode hits with
      ⟨records, all⟩ | ⟨earlier, hit, later, rfl, before, undecodable⟩
    · simp only [readPage, decodeHits_of_decoded all]
      exact .page all
    · simp only [readPage, decodeHits_of_undecodable before undecodable]
      exact .failed before undecodable

/-- The answer of an engine in memory counts all hits, whatever the window. -/
theorem MemoryEngine.total_answer (engine : MemoryEngine) (call : Call) :
    (engine.answer call).total = engine.hits.length := by
  have fewer : (engine.window call).length ≤ engine.hits.length := by
    unfold window
    rw [List.length_take, List.length_drop]
    omega
  exact Nat.max_eq_left fewer

namespace Service

/-- The outcome of a search whose last attempt ended in some way. -/
def outcomeOf (decode : String → Option α) (request : PageRequest) :
    Except EngineError Answer → Outcome α
  | .ok answer => (readPage decode request answer).1
  | .error failure => .failed (.engine failure)

/-- The call that a query and a page request make. -/
def callOf (query : String) (request : PageRequest) : Call := ⟨query, request.offset, request.size⟩

/-- A search is watched for one attempt at least. -/
theorem watched_pos (service : Service) (engine : MemoryEngine) :
    0 < service.watched MemoryEngine.engine engine := by
  unfold watched
  split
  · exact Nat.le_max_right _ 1
  · exact Nat.succ_pos _

/-- What happens when a reply ends the attempts of a query. -/
def replyEvents (engine : String) (decode : String → Option α) (request : PageRequest) :
    Except EngineError Answer → List MetricEvent
  | .ok answer =>
    [.latency engine, .query engine (answerStatus answer)] ++ (readPage decode request answer).2
  | .error failure => [.query engine (failureStatus failure)]

/-- A query whose attempts return a reply ends as the reply says, in the state and after the waits
of the attempts. -/
theorem runQuery_eq {service : Service} {engine : Engine σ} {decode : String → Option α}
    {query : String} {request : PageRequest} {state : σ} {attempts : Attempts σ EngineError Answer}
    {reply : Except EngineError Answer}
    (made : service.backoff.attempt EngineError.isTransient (engine.ask (callOf query request))
      (service.watched engine state) state = attempts)
    (returned : attempts.ending = .returned reply) :
    service.runQuery engine decode query request state =
      ⟨outcomeOf decode request reply, attempts.state, attempts.waits,
        replyEvents engine.name decode request reply⟩ := by
  unfold callOf at made
  cases reply <;> simp only [runQuery, made, returned, outcomeOf, replyEvents]

/-- A usable rule has all attempts watched that it allows. -/
theorem watched_of_usable {service : Service} {attempts : Nat}
    (usable : service.backoff.Usable attempts) (engine : Engine σ) (state : σ) :
    service.watched engine state = attempts := by
  simp only [watched, usable.limited]
  exact Nat.max_eq_left usable.positive

/-- Without queued failures the first attempt is answered, whatever the rule for attempts. -/
theorem runQuery_of_quiet (service : Service) (decode : String → Option α) (query : String)
    (request : PageRequest) {engine : MemoryEngine} (quiet : engine.failures = []) :
    (service.runQuery MemoryEngine.engine decode query request engine).outcome =
        (readPage decode request (engine.answer (callOf query request))).1 ∧
      (service.runQuery MemoryEngine.engine decode query request engine).state =
        engine.afterCalls (callOf query request) 1 := by
  obtain ⟨watched, enough⟩ : ∃ watched, service.watched MemoryEngine.engine engine = watched + 1 :=
    ⟨_, (Nat.succ_pred_eq_of_pos (service.watched_pos engine)).symm⟩
  have made : service.backoff.attempt EngineError.isTransient
      (MemoryEngine.engine.ask (callOf query request))
      (service.watched MemoryEngine.engine engine) engine =
        ⟨engine.afterCalls (callOf query request) 1, 1, [],
          .returned (.ok (engine.answer (callOf query request)))⟩ := by
    rw [enough]
    exact Backoff.attemptFrom_of_quiet service.backoff quiet _ _ _ _
  rw [runQuery_eq made rfl]
  exact ⟨rfl, rfl⟩

/-- With a usable rule a search makes as many calls as the queue asks for and ends as the last one
does. -/
theorem runQuery_of_usable {service : Service} {attempts : Nat}
    (usable : service.backoff.Usable attempts) (decode : String → Option α) (query : String)
    (request : PageRequest) (engine : MemoryEngine) :
    (service.runQuery MemoryEngine.engine decode query request engine).outcome =
        outcomeOf decode request
          (engine.outcomeAfter (callOf query request) (engine.tries attempts)) ∧
      (service.runQuery MemoryEngine.engine decode query request engine).state =
        engine.afterCalls (callOf query request) (engine.tries attempts) := by
  have run := Backoff.attemptFrom_memory usable (callOf query request) usable.positive
    (Nat.zero_add attempts) rfl engine
  have made : service.backoff.attempt EngineError.isTransient
      (MemoryEngine.engine.ask (callOf query request))
      (service.watched MemoryEngine.engine engine) engine =
        service.backoff.attempt EngineError.isTransient
          (Backoff.asking (callOf query request)) attempts engine := by
    rw [watched_of_usable usable]
  rw [← run.1, runQuery_eq made run.2]
  exact ⟨rfl, rfl⟩

end Service

end FilmFinder
