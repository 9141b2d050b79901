import FilmFinder.Proofs.Backoff.Schedule
import FilmFinder.Proofs.Service.Account

/-!
# Round trips of a search

A service built from settings allows a search one round trip more than the further attempts that the
settings give, as far as a word counts. Between each two round trips it waits as the schedule of
searches says, and so every search ends, whatever the engine does and however many failures it
retries. An engine that counts its round trips shows how many a search makes.
-/
namespace FilmFinder

open Backoff

variable {σ α : Type}

/-- The engine with a count of its round trips. -/
def Engine.counting (engine : Engine σ) : Engine (σ × Nat) where
  name := engine.name
  ask call := counted (engine.ask call)
  patience state := engine.patience state.1

namespace Service

/-- A search that made some round trips and waited as the schedule of searches says: once between
each two of them, never longer than two seconds and never shorter than before. -/
structure OnSchedule (further trips : Nat) (run : SearchRun σ α) : Prop where
  /-- There is at most one round trip more than the further ones. -/
  limited : trips ≤ further + 1
  /-- The round trips are counted by a word. -/
  counted : trips < wordBound
  /-- The waits are those of the schedule, one between each two round trips. -/
  waits : run.waits = (List.range (trips - 1)).map searchWait
  /-- No wait is shorter than one before it. -/
  steady : run.waits.Pairwise fun earlier later => earlier.nanoseconds ≤ later.nanoseconds
  /-- No wait is longer than two seconds. -/
  bounded : ∀ wait ∈ run.waits, wait.nanoseconds ≤ (Duration.ofMilliseconds 2000).nanoseconds
  /-- The search returned a page or a failure: every wait could be worked out. -/
  ended : run.outcome.Ended

/-- A search is on schedule when its waits are and it ended. -/
theorem OnSchedule.of_waits {further trips : Nat} {run : SearchRun σ α}
    (few : trips ≤ Nat.min (further + 1) (wordBound - 1))
    (waits : run.waits = (List.range (trips - 1)).map searchWait) (ended : run.outcome.Ended) :
    OnSchedule further trips run := by
  have limits := Nat.le_min.mp few
  refine ⟨limits.1, Nat.lt_of_le_pred (by decide) limits.2, waits, ?_, ?_, ended⟩
  · rw [waits, List.pairwise_map]
    exact List.pairwise_lt_range.imp fun before => searchWait_mono (Nat.le_of_lt before)
  · rw [waits]
    exact List.forall_mem_map.mpr fun index _ => searchWait_le index

section First

variable {service : Service} {engine : Engine σ} {schedule : Nat → Duration} {query : String}
  {request : PageRequest} {state : σ} {last : Nat}
  (keeps : service.backoff.Keeps schedule)
  (first : EndsFirst service.backoff EngineError.isTransient (engine.ask (callOf query request))
    state last)
  (seen : last < service.watched engine state) (decode : String → Option α)

include keeps first seen

/-- A query under a rule that keeps to a schedule ends as its first reply to end the attempts says,
after the waits of the schedule. -/
theorem runQuery_of_first :
    let ask := engine.ask (callOf query request)
    service.runQuery engine decode query request state =
      ⟨outcomeOf decode request (nthOutcome ask last state), stateAfter ask (last + 1) state,
        (List.range last).map schedule,
        replyEvents engine.name decode request (nthOutcome ask last state)⟩ := by
  intro ask
  rw [runQuery_eq (keeps.attempt_eq first seen) rfl]

/-- The engine with a count makes the query end in the same way and counts the replies. -/
theorem runQuery_counting_of_first :
    let run := service.runQuery engine decode query request state
    service.runQuery engine.counting decode query request (state, 0) =
      ⟨run.outcome, (run.state, last + 1), run.waits, run.events⟩ := by
  intro run
  let ask := engine.ask (callOf query request)
  have counted : EndsFirst service.backoff EngineError.isTransient
      (engine.counting.ask (callOf query request)) (state, 0) last := first.counted 0
  have same : nthOutcome (engine.counting.ask (callOf query request)) last (state, 0) =
      nthOutcome ask last state := nthOutcome_counted ask last state 0
  have count : stateAfter (engine.counting.ask (callOf query request)) (last + 1) (state, 0) =
      (stateAfter ask (last + 1) state, last + 1) := by
    have counts := stateAfter_counted ask (last + 1) state 0
    rwa [Nat.zero_add] at counts
  rw [runQuery_of_first keeps counted seen, same, count]
  simp only [run, runQuery_of_first keeps first seen]
  rfl

end First

/-- A query of a service that settings describe makes as many round trips at an engine as the engine
with a count says, on schedule, and all that are allowed when all of them fail in passing. -/
theorem runQuery_on_schedule (settings : Settings) (engine : Engine σ) (decode : String → Option α)
    (query : String) (request : PageRequest) (state : σ) :
    let service := ofSettings settings
    let run := service.runQuery engine decode query request state
    ∃ trips, service.runQuery engine.counting decode query request (state, 0) =
        ⟨run.outcome, (run.state, trips), run.waits, run.events⟩ ∧
      OnSchedule settings.furtherAttempts.toNat trips run ∧
      (Failing EngineError.isTransient (engine.ask (callOf query request)) state →
        trips = Nat.min (settings.furtherAttempts.toNat + 1) (wordBound - 1)) := by
  intro service run
  have keeps : service.backoff.Keeps searchWait := search_keeps settings.furtherAttempts.toNat
  obtain ⟨limited, positive⟩ := search_limit settings.furtherAttempts.toNat
  obtain ⟨last, inside, first⟩ := exists_endsFirst_lt limited positive EngineError.isTransient
    (engine.ask (callOf query request)) state
  have seen : last < service.watched engine state := by
    show last < Nat.max _ 1
    exact Nat.lt_of_lt_of_le inside (Nat.le_max_left _ _)
  have ends := runQuery_of_first keeps first seen decode
  have waits : run.waits = (List.range last).map searchWait := congrArg SearchRun.waits ends
  have ended : run.outcome.Ended := by
    rw [show run = _ from ends]
    exact ended_outcomeOf decode request _
  refine ⟨last + 1, runQuery_counting_of_first keeps first seen decode,
    .of_waits inside waits ended, ?_⟩
  intro failing
  exact failing.endsFirst_eq limited first inside

/-- A search that is refused before the engine is asked makes no round trip. -/
theorem OnSchedule.refused (further : Nat) (error : SearchError) (events : List MetricEvent)
    (state : σ) : OnSchedule further 0 (Service.refused error events state : SearchRun σ α) :=
  .of_waits (Nat.zero_le _) rfl trivial

/-- Searches are on schedule: for any number of further attempts in the settings and whatever an
engine answers, a search at the engine makes as many round trips as the engine with a count says, at
most one more than the further ones. The wait behind the `i`-th of them is 100 milliseconds doubled
`i` times, counted from zero, but two seconds at most; every wait can be worked out, and no search
goes on for ever. A search whose round trips all fail in passing makes all that are allowed. -/
theorem search_on_schedule (settings : Settings) (engine : Engine σ) (decode : String → Option α)
    (criteria : Criteria) (page size : Int64) (state : σ) :
    let service := ofSettings settings
    let run := service.search engine decode criteria page size state
    (∀ failed, service.backoff.wait? failed = .ok (searchWait failed)) ∧
      ∃ trips, service.search engine.counting decode criteria page size (state, 0) =
          ⟨run.outcome, (run.state, trips), run.waits, run.events⟩ ∧
        OnSchedule settings.furtherAttempts.toNat trips run ∧
        ∀ request query, service.pager.request? page size = .ok request →
          criteria.query? service.table = .ok query →
          Failing EngineError.isTransient (engine.ask (callOf query request)) state →
          trips = Nat.min (settings.furtherAttempts.toNat + 1) (wordBound - 1) := by
  intro service run
  refine ⟨(search_keeps settings.furtherAttempts.toNat).wait?_eq, ?_⟩
  simp only [run, search]
  cases service.pager.request? page size with
  | error error =>
    refine ⟨0, rfl, .refused _ error [] state, ?_⟩
    intro request query contrary
    contradiction
  | ok request =>
    simp only [searchPage]
    cases criteria.query? service.table with
    | error error =>
      refine ⟨0, rfl, .refused _ _ _ state, ?_⟩
      intro request query _ contrary
      contradiction
    | ok query =>
      obtain ⟨trips, counting, onSchedule, all⟩ :=
        runQuery_on_schedule settings engine decode query request state
      refine ⟨trips, counting, onSchedule, ?_⟩
      intro other text same compiled failing
      cases same
      cases compiled
      exact all failing

/-- An engine that is down is asked eight times where seven further attempts are allowed, and the
waits stay at two seconds from the sixth on. -/
theorem search_on_schedule_down :
    let settings : Settings := { furtherAttempts := 7 }
    let service := ofSettings settings
    let engine : Engine Unit :=
      ⟨"down", fun _ state => (.error (.transport "reset"), state), fun _ => 1⟩
    let request : PageRequest := ⟨0, 10, by decide, by decide⟩
    Failing EngineError.isTransient (engine.ask (callOf "" request)) () ∧
      (service.search engine.counting Film.ofText? .empty 0 10 ((), 0)).state = ((), 8) ∧
      (service.search engine Film.ofText? .empty 0 10 ()).waits =
        [.ofMilliseconds 100, .ofMilliseconds 200, .ofMilliseconds 400, .ofMilliseconds 800,
          .ofMilliseconds 1600, .ofMilliseconds 2000, .ofMilliseconds 2000] := by
  intro settings service engine request
  have failing : Failing EngineError.isTransient (engine.ask (callOf "" request)) () :=
    .of_states EngineError.isTransient (fun _ => ⟨.transport "reset", rfl, rfl⟩) ()
  have requested : service.pager.request? 0 10 = .ok request := by decide +kernel
  have compiled : Criteria.empty.query? service.table = .ok "" := by decide +kernel
  obtain ⟨-, trips, counting, onSchedule, all⟩ :=
    search_on_schedule settings engine Film.ofText? .empty 0 10 ()
  have eight : trips = 8 := all request "" requested compiled failing
  subst eight
  refine ⟨failing, by rw [counting], onSchedule.waits.trans ?_⟩
  decide

end Service

end FilmFinder
