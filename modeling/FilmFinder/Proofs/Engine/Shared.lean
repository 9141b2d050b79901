import FilmFinder.Engine.Memory

/-!
# An engine in memory with many clients

Clients share an engine in memory. Queueing a failure is one step; a call is two, and steps of other
clients may come between them. Whatever the order of the steps, the failures come out as they went
in, each call that was started is recorded once and is either over or between its steps, and an
answer is the window of the hits that the call itself asks for.
-/
namespace FilmFinder

/-- The second step of a call takes the first failure that is left, or answers with the window when
none is. -/
theorem MemoryEngine.settle_cases (engine : MemoryEngine) (call : Call) :
    (∃ failure rest, engine.failures = failure :: rest ∧
      engine.settle call = (.error failure, { engine with failures := rest })) ∨
    (engine.failures = [] ∧
      engine.settle call = (.ok (.of (engine.window call) engine.hits.length), engine)) := by
  unfold settle
  cases engine.failures with
  | nil => exact .inr ⟨rfl, rfl⟩
  | cons failure rest => exact .inl ⟨failure, rest, rfl, rfl⟩

variable {ι : Type}

/-- A step of a client at a shared engine. -/
inductive Event (ι : Type) where
  /-- A failure is queued. -/
  | queued (client : ι) (failure : EngineError)
  /-- A call is recorded. -/
  | started (client : ι) (call : Call)
  /-- A recorded call takes a failure or is answered. -/
  | settled (client : ι) (call : Call) (reply : Except EngineError Answer)

namespace Event

/-- The failure that is queued. -/
@[simp] def queued? : Event ι → Option EngineError
  | .queued _ failure => some failure
  | .started _ _ => none
  | .settled _ _ _ => none

/-- The failure that a call takes. -/
@[simp] def taken? : Event ι → Option EngineError
  | .queued _ _ => none
  | .started _ _ => none
  | .settled _ _ (.ok _) => none
  | .settled _ _ (.error failure) => some failure

/-- The answer to a call. -/
@[simp] def answer? : Event ι → Option Answer
  | .queued _ _ => none
  | .started _ _ => none
  | .settled _ _ (.ok answer) => some answer
  | .settled _ _ (.error _) => none

/-- The call that is recorded, with its client. -/
@[simp] def started? : Event ι → Option (ι × Call)
  | .queued _ _ => none
  | .started client call => some (client, call)
  | .settled _ _ _ => none

/-- The call that is over, with its client. -/
@[simp] def settled? : Event ι → Option (ι × Call)
  | .queued _ _ => none
  | .started _ _ => none
  | .settled client call _ => some (client, call)

/-- A call is over with a failure or with an answer. -/
theorem length_settled (events : List (Event ι)) :
    (events.filterMap settled?).length =
      (events.filterMap taken?).length + (events.filterMap answer?).length := by
  induction events with
  | nil => rfl
  | cons event events step =>
    cases event with
    | queued client failure => simpa [List.filterMap_cons] using step
    | started client call => simpa [List.filterMap_cons] using step
    | settled client call reply =>
      cases reply with
      | ok answer => simp [List.filterMap_cons, step, Nat.add_assoc]
      | error failure => simp [List.filterMap_cons, step, Nat.add_right_comm]

end Event

/-- An engine in memory with the calls that are between their two steps. -/
structure Shared (ι : Type) where
  /-- The engine. -/
  engine : MemoryEngine
  /-- The recorded calls that are not over, with their clients. -/
  underway : List (ι × Call)

namespace Shared

/-- An engine over hits that no client has used. -/
def of (hits : List Hit) : Shared ι := ⟨.of hits, []⟩

/-- One step of some client. -/
inductive Step : Shared ι → Event ι → Shared ι → Prop
  /-- A failure is queued. -/
  | queue {engine : MemoryEngine} {underway : List (ι × Call)} (client : ι)
    (failure : EngineError) :
    Step ⟨engine, underway⟩ (.queued client failure) ⟨engine.queue failure, underway⟩
  /-- A call is recorded. -/
  | start {engine : MemoryEngine} {underway : List (ι × Call)} (client : ι) (call : Call) :
    Step ⟨engine, underway⟩ (.started client call)
      ⟨engine.record call, underway ++ [(client, call)]⟩
  /-- A recorded call is settled, whichever was recorded first. -/
  | settle {engine : MemoryEngine} (earlier later : List (ι × Call)) (client : ι) (call : Call) :
    Step ⟨engine, earlier ++ (client, call) :: later⟩
      (.settled client call (engine.settle call).1) ⟨(engine.settle call).2, earlier ++ later⟩

/-- The steps of any clients in any order, with the state after them. -/
inductive Run (start : Shared ι) : List (Event ι) → Shared ι → Prop
  /-- No step. -/
  | nil : Run start [] start
  /-- One more step. -/
  | next {events : List (Event ι)} {event : Event ι} {state after : Shared ι}
    (run : Run start events state) (step : Step state event after) :
    Run start (events ++ [event]) after

/-- A state fits the steps that led to it. -/
structure Fits (hits : List Hit) (events : List (Event ι)) (state : Shared ι) : Prop where
  /-- The hits stay. -/
  hits_eq : state.engine.hits = hits
  /-- The failures that were queued are those that were taken and those that are left. -/
  failures_eq : events.filterMap Event.taken? ++ state.engine.failures =
    events.filterMap Event.queued?
  /-- The calls are recorded in the order of their first steps. -/
  calls_eq : state.engine.calls =
    (events.filterMap Event.started?).map fun started => started.2.effective
  /-- The calls that were started are those that are over and those between their steps. -/
  started_perm : (events.filterMap Event.started?).Perm
    (events.filterMap Event.settled? ++ state.underway)
  /-- An answer is the window that its call asks for. -/
  answered : ∀ client call answer, .settled client call (.ok answer) ∈ events →
    answer = .of ((hits.drop call.offset).take call.limit) hits.length

variable {hits : List Hit} {events : List (Event ι)} {event : Event ι} {state after : Shared ι}

/-- The state before all steps fits. -/
theorem Fits.of (hits : List Hit) : Fits hits [] (.of hits : Shared ι) where
  hits_eq := rfl
  failures_eq := rfl
  calls_eq := rfl
  started_perm := .nil
  answered := nofun

/-- A step leads from a state that fits to one that fits. -/
theorem Fits.step (fits : Fits hits events state) (step : Step state event after) :
    Fits hits (events ++ [event]) after := by
  obtain ⟨sameHits, failures, calls, started, answered⟩ := fits
  -- Failures join the queue at its end and leave it at its front, so those that were taken and
  -- those that are left stay in the order of queueing.
  cases step with
  | queue client failure =>
    refine ⟨sameHits, ?_, ?_, ?_, ?_⟩
    · simp [List.filterMap_cons, MemoryEngine.queue, ← failures]
    · simpa [List.filterMap_cons, MemoryEngine.queue] using calls
    · simpa [List.filterMap_cons] using started
    · simpa using answered
  | start client call =>
    refine ⟨sameHits, ?_, ?_, ?_, ?_⟩
    · simpa [List.filterMap_cons, MemoryEngine.record] using failures
    · simpa [MemoryEngine.record] using calls
    · simpa [List.filterMap_cons] using started.append_right [(client, call)]
    · simpa using answered
  | @settle engine earlier later client call =>
    have finished : (events.filterMap Event.started?).Perm
        (events.filterMap Event.settled? ++ [(client, call)] ++ (earlier ++ later)) := by
      refine started.trans ?_
      rw [List.append_assoc]
      exact List.perm_middle.append_left _
    rcases engine.settle_cases call with ⟨failure, rest, queue, settled⟩ | ⟨queue, settled⟩
    · rw [settled]
      refine ⟨sameHits, ?_, ?_, ?_, ?_⟩
      · simpa [List.filterMap_cons, queue] using failures
      · simpa [List.filterMap_cons] using calls
      · simpa [List.filterMap_cons] using finished
      · simpa using answered
    · rw [settled]
      refine ⟨sameHits, ?_, ?_, ?_, ?_⟩
      · simpa [List.filterMap_cons] using failures
      · simpa [List.filterMap_cons] using calls
      · simpa [List.filterMap_cons] using finished
      · intro other call answer inside
        rcases List.mem_append.mp inside with before | now
        · exact answered other call answer before
        · cases List.mem_singleton.mp now
          rw [MemoryEngine.window, ← sameHits]

/-- Any steps lead from an unused engine to a state that fits them. -/
theorem Run.fits (run : Run (.of hits) events state) : Fits hits events state := by
  induction run with
  | nil => exact .of hits
  | next run step fits => exact fits.step step

/-- A call whose two steps nothing separates is a whole call. -/
theorem Run.whole {start : Shared ι} {engine : MemoryEngine} {underway : List (ι × Call)}
    (run : Run start events ⟨engine, underway⟩) (client : ι) (call : Call) :
    Run start (events ++ [.started client call] ++ [.settled client call (engine.execute call).1])
      ⟨(engine.execute call).2, underway⟩ := by
  have last : Step ⟨engine.record call, underway ++ [(client, call)]⟩
      (.settled client call (engine.execute call).1) ⟨(engine.execute call).2, underway ++ []⟩ :=
    .settle underway [] client call
  rw [List.append_nil] at last
  exact (run.next (.start client call)).next last

/-- Whatever steps clients make in whatever order, the failures that were taken and those that are
left are the queued ones in their order. Each call that was started has one record, with its own
query as sent and its own window, and is over or between its steps. There are as many records as
failures taken, answers given and calls between their steps, and an answer is the window of the hits
that its call asks for. -/
theorem run_accounted (run : Run (.of hits) events state) :
    events.filterMap Event.taken? ++ state.engine.failures = events.filterMap Event.queued? ∧
      state.engine.calls =
        (events.filterMap Event.started?).map (fun started => started.2.effective) ∧
      (events.filterMap Event.started?).Perm
        (events.filterMap Event.settled? ++ state.underway) ∧
      state.engine.calls.length = (events.filterMap Event.taken?).length +
        (events.filterMap Event.answer?).length + state.underway.length ∧
      ∀ client call answer, .settled client call (.ok answer) ∈ events →
        answer = .of ((hits.drop call.offset).take call.limit) hits.length := by
  have fits := run.fits
  have recorded : state.engine.calls.length =
      (events.filterMap Event.settled? ++ state.underway).length := by
    rw [fits.calls_eq, List.length_map, fits.started_perm.length_eq]
  rw [List.length_append, Event.length_settled] at recorded
  exact ⟨fits.failures_eq, fits.calls_eq, fits.started_perm, recorded, fits.answered⟩

/-- A failure that is queued between the two steps of a call is taken by a call that another client
started later and that is over first. The blank query is sent as the one that matches every film,
and the other one as it stands. -/
theorem run_accounted_two :
    let hits : List Hit := [⟨"film:1", "one"⟩, ⟨"film:2", "two"⟩]
    let early : Call := ⟨" ", 1, 5⟩
    let late : Call := ⟨"alien", 0, 1⟩
    let failure : EngineError := .rejected "no"
    let answer : Answer := ⟨[⟨"film:2", "two"⟩], 2⟩
    let events : List (Event Bool) :=
      [.started false early, .queued true failure, .started true late,
        .settled true late (.error failure), .settled false early (.ok answer)]
    let state : Shared Bool := ⟨⟨hits, [], [early.effective, late.effective]⟩, []⟩
    Run (.of hits) events state ∧
      early.effective = ⟨"*", 1, 5⟩ ∧ late.effective = ⟨"alien", 0, 1⟩ ∧
      [failure] ++ state.engine.failures = [failure] ∧
      state.engine.calls = [early.effective, late.effective] ∧
      [(false, early), (true, late)].Perm ([(true, late), (false, early)] ++ state.underway) ∧
      state.engine.calls.length = 1 + 1 + 0 ∧
      answer = .of ((hits.drop early.offset).take early.limit) hits.length := by
  intro hits early late failure answer events state
  have run : Run (.of hits) events state := by
    have first : Run (.of hits : Shared Bool) [] (.of hits) := .nil
    have second := (first.next (.start false early)).next (.queue true failure)
    have third := (second.next (.start true late)).next (.settle [(false, early)] [] true late)
    exact third.next (.settle [] [] false early)
  obtain ⟨taken, recorded, started, length, answered⟩ := run_accounted run
  have blank : early.effective = ⟨"*", 1, 5⟩ := by decide +kernel
  have kept : late.effective = ⟨"alien", 0, 1⟩ := by decide +kernel
  have window := answered false early answer (by simp [events])
  exact ⟨run, blank, kept, taken, recorded, started, length, window⟩

end Shared

end FilmFinder
