import FilmFinder.Engine.Memory
import FilmFinder.Proofs.Backoff

/-!
# Attempts at an engine in memory

Repeated calls take queued failures one by one until a failure stays, the attempts run out or
an answer comes. How many calls that takes, which failure or answer is the last and what the
calls leave behind depend on the queue and on the number of attempts alone.
-/
namespace FilmFinder

namespace MemoryEngine

/-- How many calls a search makes with so many attempts: one for each failure in front of the
queue that may pass, and one more. -/
def tries (engine : MemoryEngine) (attempts : Nat) : Nat :=
  Nat.min attempts ((engine.failures.takeWhile EngineError.isTransient).length + 1)

/-- The engine after a call was made so many times: each call is recorded and took a failure if
there was one. -/
def afterCalls (engine : MemoryEngine) (call : Call) (count : Nat) : MemoryEngine :=
  { engine with
    failures := engine.failures.drop count
    calls := engine.calls ++ List.replicate count call.effective }

/-- The answer to a call once no failure is left. -/
def answer (engine : MemoryEngine) (call : Call) : Answer :=
  .of (engine.window call) engine.hits.length

/-- The outcome of a call that is the last of so many. -/
def outcomeAfter (engine : MemoryEngine) (call : Call) (count : Nat) : Except EngineError Answer :=
  match engine.failures[count - 1]? with
  | some failure => .error failure
  | none => .ok (engine.answer call)

/-- A call without queued failures is answered. -/
theorem execute_of_quiet {engine : MemoryEngine} (quiet : engine.failures = []) (call : Call) :
    engine.execute call = (.ok (engine.answer call), engine.afterCalls call 1) := by
  cases engine
  cases quiet
  rfl

/-- A call takes the first queued failure. -/
theorem execute_of_failing {engine : MemoryEngine} {failure : EngineError}
    {failures : List EngineError} (failing : engine.failures = failure :: failures) (call : Call) :
    engine.execute call = (.error failure, engine.afterCalls call 1) := by
  cases engine
  cases failing
  rfl

/-- Calls after a first call are calls in all. -/
theorem afterCalls_afterCalls (engine : MemoryEngine) (call : Call) (count : Nat) :
    (engine.afterCalls call 1).afterCalls call count = engine.afterCalls call (count + 1) := by
  simp [afterCalls, List.replicate_succ]

/-- The hits are the same after any calls. -/
@[simp] theorem hits_afterCalls (engine : MemoryEngine) (call : Call) (count : Nat) :
    (engine.afterCalls call count).hits = engine.hits := rfl

/-- The answer to a call is the same after any calls. -/
@[simp] theorem answer_afterCalls (engine : MemoryEngine) (call : Call) (count : Nat)
    (next : Call) : (engine.afterCalls call count).answer next = engine.answer next := rfl

/-- The last outcome after a first call is the last outcome in all. -/
theorem outcomeAfter_afterCalls (engine : MemoryEngine) (call : Call) {count : Nat}
    (positive : 0 < count) :
    (engine.afterCalls call 1).outcomeAfter call count =
      engine.outcomeAfter call (count + 1) := by
  have same : (engine.afterCalls call 1).failures[count - 1]? = engine.failures[count]? := by
    change (engine.failures.drop 1)[count - 1]? = engine.failures[count]?
    rw [List.getElem?_drop, Nat.add_sub_of_le positive]
  unfold outcomeAfter
  rw [same, Nat.add_sub_cancel, answer_afterCalls]

/-- The last of so many calls fails when the queue has a failure for it. -/
theorem outcomeAfter_of_last {engine : MemoryEngine} {count : Nat} {failure : EngineError}
    (last : engine.failures[count - 1]? = some failure) (call : Call) :
    engine.outcomeAfter call count = .error failure := by
  rw [outcomeAfter, last]

/-- The last of more calls than there are failures is answered. -/
theorem outcomeAfter_of_few {engine : MemoryEngine} {count : Nat}
    (few : engine.failures.length < count) (call : Call) :
    engine.outcomeAfter call count = .ok (engine.answer call) := by
  have none : engine.failures[count - 1]? = none := List.getElem?_eq_none (by omega)
  rw [outcomeAfter, none]

/-- Without failures one call is enough. -/
theorem tries_of_quiet {engine : MemoryEngine} (quiet : engine.failures = []) {attempts : Nat}
    (positive : 0 < attempts) : engine.tries attempts = 1 := by
  simp only [tries, quiet, List.takeWhile_nil, List.length_nil]
  exact Nat.min_eq_right positive

/-- A failure that stays ends the calls. -/
theorem tries_of_staying {engine : MemoryEngine} {failure : EngineError}
    {failures : List EngineError} (failing : engine.failures = failure :: failures)
    (stays : failure.isTransient = false) {attempts : Nat} (positive : 0 < attempts) :
    engine.tries attempts = 1 := by
  simp only [tries, failing, List.takeWhile_cons, stays, Bool.false_eq_true, ↓reduceIte,
    List.length_nil]
  exact Nat.min_eq_right positive

/-- A failure that may pass takes one attempt. -/
theorem tries_of_passing {engine : MemoryEngine} {failure : EngineError}
    {failures : List EngineError} (failing : engine.failures = failure :: failures)
    (passes : failure.isTransient = true) (call : Call) (attempts : Nat) :
    engine.tries (attempts + 1) = (engine.afterCalls call 1).tries attempts + 1 := by
  simp only [tries, afterCalls, failing, List.takeWhile_cons, passes, ↓reduceIte,
    List.length_cons, List.drop_succ_cons, List.drop_zero]
  exact Nat.add_min_add_right _ _ 1

/-- There is at least one call. -/
theorem tries_pos (engine : MemoryEngine) {attempts : Nat} (positive : 0 < attempts) :
    0 < engine.tries attempts := by
  unfold tries
  exact Nat.lt_min.mpr ⟨positive, Nat.succ_pos _⟩

end MemoryEngine

namespace Backoff

/-- The operation that a search attempts. -/
abbrev asking (call : Call) : MemoryEngine → Except EngineError Answer × MemoryEngine :=
  MemoryEngine.engine.ask call

/-- An attempt without queued failures is the last one. -/
theorem attemptFrom_of_quiet (backoff : Backoff) {engine : MemoryEngine}
    (quiet : engine.failures = []) (call : Call) (watched made : Nat) (wait : Duration) :
    backoff.attemptFrom EngineError.isTransient (asking call) (watched + 1) made wait engine =
      ⟨engine.afterCalls call 1, made + 1, [], .returned (.ok (engine.answer call))⟩ :=
  attemptFrom_of_success backoff watched made wait (engine.execute_of_quiet quiet call)

/-- Watched attempts of a usable rule make as many calls as the queue asks for, and return the
outcome of the last one. -/
theorem attemptFrom_memory {backoff : Backoff} {attempts : Nat} (usable : backoff.Usable attempts)
    (call : Call) {watched made : Nat} (positive : 0 < watched) (budget : made + watched = attempts)
    {wait : Duration} (due : backoff.wait? made = .ok wait) (engine : MemoryEngine) :
    let run := backoff.attemptFrom EngineError.isTransient (asking call) watched made wait engine
    run.state = engine.afterCalls call (engine.tries watched) ∧
      run.ending = .returned (engine.outcomeAfter call (engine.tries watched)) := by
  -- The budget ties the attempts that are left to those made, so that the rule is spent exactly
  -- when none is left.
  induction watched generalizing made wait engine with
  | zero => exact absurd positive (Nat.lt_irrefl 0)
  | succ watched step =>
    cases queue : engine.failures with
    | nil =>
      have few : engine.failures.length < 1 := by
        rw [queue]
        exact Nat.one_pos
      rw [attemptFrom_of_quiet backoff queue, MemoryEngine.tries_of_quiet queue positive,
        MemoryEngine.outcomeAfter_of_few few]
      exact ⟨rfl, rfl⟩
    | cons failure failures =>
      have failed : asking call engine = (.error failure, engine.afterCalls call 1) :=
        MemoryEngine.execute_of_failing queue call
      have first : engine.outcomeAfter call 1 = .error failure := by
        refine MemoryEngine.outcomeAfter_of_last ?_ call
        rw [queue]
        rfl
      cases passes : failure.isTransient with
      | false =>
        rw [attemptFrom_of_last backoff watched made wait failed (.inl passes),
          MemoryEngine.tries_of_staying queue passes positive, first]
        exact ⟨rfl, rfl⟩
      | true =>
        rw [MemoryEngine.tries_of_passing queue passes call]
        by_cases ended : watched = 0
        · have spent : backoff.isSpent (made + 1) = true := (usable.isSpent_iff _).mpr (by omega)
          have none : (engine.afterCalls call 1).tries watched = 0 := by
            rw [ended]
            exact Nat.zero_min _
          rw [attemptFrom_of_last backoff watched made wait failed (.inr spent), none, Nat.zero_add,
            first]
          exact ⟨rfl, rfl⟩
        · have remaining : 0 < watched := Nat.pos_of_ne_zero ended
          have left : ¬ backoff.isSpent (made + 1) = true := by
            rw [usable.isSpent_iff]
            omega
          have onward := usable.exists_next (show made + 1 < attempts by omega) due
          obtain ⟨longer, known, dueNext⟩ := onward
          have again : 0 < (engine.afterCalls call 1).tries watched :=
            MemoryEngine.tries_pos _ remaining
          have rest := step remaining (by omega) dueNext (engine.afterCalls call 1)
          rw [MemoryEngine.afterCalls_afterCalls, engine.outcomeAfter_afterCalls call again] at rest
          rw [attemptFrom_of_next backoff watched made wait failed passes
            (Bool.eq_false_iff.mpr left) known]
          exact rest

end Backoff

end FilmFinder
