import FilmFinder.Backoff

/-!
# One attempt

What an attempt does depends on its outcome alone: a success is returned, a failure that is not
to be tried again or that was the last one allowed is returned, and every other failure is
followed by a wait and by the attempts that are left, if the next wait can be worked out.
-/
namespace FilmFinder

namespace Backoff

/-- The outcome of an operation once it was carried out so many times before. -/
def nthOutcome {σ ε α : Type} (operation : σ → Except ε α × σ) :
    (before : Nat) → σ → Except ε α
  | 0, state => (operation state).1
  | before + 1, state => nthOutcome operation before (operation state).2

/-- The wait that is due after some failed attempts. -/
def wait? (backoff : Backoff) : (failed : Nat) → Except DurationFault Duration
  | 0 => .ok backoff.initial
  | failed + 1 =>
    match backoff.wait? failed with
    | .ok wait => backoff.next? wait
    | .error fault => .error fault

/-- A rule for at most so many attempts is usable when every wait it comes to can be worked out. -/
structure Usable (backoff : Backoff) (attempts : Nat) : Prop where
  /-- That many attempts are made at most. -/
  limited : backoff.attempts = some attempts
  /-- An attempt is made. -/
  positive : 0 < attempts
  /-- Each wait that so many attempts come to work out exists. -/
  waits : ∀ failed < attempts, (backoff.wait? failed).isOk = true

/-- A rule is spent once all attempts are made. -/
theorem Usable.isSpent_iff {backoff : Backoff} {attempts : Nat} (usable : backoff.Usable attempts)
    (made : Nat) : backoff.isSpent made = true ↔ attempts ≤ made := by
  unfold isSpent
  rw [usable.limited]
  exact decide_eq_true_iff

/-- The wait after a wait that so many attempts come to exists. -/
theorem Usable.exists_next {backoff : Backoff} {attempts : Nat} (usable : backoff.Usable attempts)
    {failed : Nat} (before : failed + 1 < attempts) {wait : Duration}
    (due : backoff.wait? failed = .ok wait) :
    ∃ longer, backoff.next? wait = .ok longer ∧ backoff.wait? (failed + 1) = .ok longer := by
  have known := usable.waits (failed + 1) before
  have following : backoff.wait? (failed + 1) = backoff.next? wait := by
    rw [wait?, due]
  rw [following] at known ⊢
  cases next : backoff.next? wait with
  | ok longer => exact ⟨longer, rfl, rfl⟩
  | error fault =>
    rw [next] at known
    contradiction

variable {σ ε α : Type} (backoff : Backoff) {retryable : ε → Bool}
  {operation : σ → Except ε α × σ} {state after : σ} {value : α} {failure : ε}
  (watched made : Nat) (wait : Duration)

/-- A success ends the attempts. -/
theorem attemptFrom_of_success (done : operation state = (.ok value, after)) :
    backoff.attemptFrom retryable operation (watched + 1) made wait state =
      ⟨after, made + 1, [], .returned (.ok value)⟩ := by
  rw [attemptFrom, done]

/-- A failure that is not to be tried again ends the attempts, and so does the last failure that
the rule allows. -/
theorem attemptFrom_of_last (failed : operation state = (.error failure, after))
    (last : retryable failure = false ∨ backoff.isSpent (made + 1) = true) :
    backoff.attemptFrom retryable operation (watched + 1) made wait state =
      ⟨after, made + 1, [], .returned (.error failure)⟩ := by
  have ends : (!retryable failure || backoff.isSpent (made + 1)) = true := by
    rcases last with final | spent
    · rw [final, Bool.not_false, Bool.true_or]
    · rw [spent, Bool.or_true]
  rw [attemptFrom, failed]
  exact if_pos ends

/-- Any other failure is followed by the wait that is due and by further attempts, when the wait
after that one exists. -/
theorem attemptFrom_of_next (failed : operation state = (.error failure, after))
    (again : retryable failure = true) (left : backoff.isSpent (made + 1) = false)
    {longer : Duration} (known : backoff.next? wait = .ok longer) :
    let rest := backoff.attemptFrom retryable operation watched (made + 1) longer after
    backoff.attemptFrom retryable operation (watched + 1) made wait state =
      { rest with waits := wait :: rest.waits } := by
  have continues : ¬ (!retryable failure || backoff.isSpent (made + 1)) = true := by
    rw [again, left]
    decide
  rw [attemptFrom, failed]
  change (if _ then _ else _) = _
  rw [if_neg continues, known]

/-- Watched attempts of a usable rule return an outcome, whatever the operation does. -/
theorem Usable.exists_returned {backoff : Backoff} {attempts : Nat}
    (usable : backoff.Usable attempts) {watched made : Nat} (positive : 0 < watched)
    (budget : made + watched = attempts) {wait : Duration} (due : backoff.wait? made = .ok wait)
    (state : σ) :
    ∃ outcome, (backoff.attemptFrom retryable operation watched made wait state).ending =
      .returned outcome := by
  induction watched generalizing made wait state with
  | zero => exact absurd positive (Nat.lt_irrefl 0)
  | succ watched step =>
    rcases done : operation state with ⟨failure | value, after⟩
    · by_cases last : retryable failure = false ∨ backoff.isSpent (made + 1) = true
      · rw [attemptFrom_of_last backoff watched made wait done last]
        exact ⟨_, rfl⟩
      · rw [not_or, Bool.not_eq_false, Bool.not_eq_true] at last
        have left : ¬ attempts ≤ made + 1 := by
          rw [← usable.isSpent_iff, last.2]
          decide
        obtain ⟨longer, known, dueNext⟩ := usable.exists_next (by omega) due
        rw [attemptFrom_of_next backoff watched made wait done last.1 last.2 known]
        exact step (by omega) (by omega) dueNext after
    · rw [attemptFrom_of_success backoff watched made wait done]
      exact ⟨_, rfl⟩

/-- What attempts return is the outcome of the last of them, which the waits between them count. -/
theorem nthOutcome_of_returned {outcome : Except ε α}
    (returned : (backoff.attemptFrom retryable operation watched made wait state).ending =
      .returned outcome) :
    nthOutcome operation
      (backoff.attemptFrom retryable operation watched made wait state).waits.length state =
        outcome := by
  fun_induction attemptFrom backoff retryable operation watched made wait state with
  | case1 made wait state => contradiction
  | case2 watched made wait state value after done =>
    change (operation state).1 = outcome
    rw [done]
    exact Ending.returned.inj returned
  | case3 watched made wait state failure after failed last =>
    change (operation state).1 = outcome
    rw [failed]
    exact Ending.returned.inj returned
  | case4 watched made wait state failure after failed again fault unknown => contradiction
  | case5 watched made wait state failure after failed again longer known rest step =>
    change nthOutcome operation rest.waits.length (operation state).2 = outcome
    rw [failed]
    exact step returned

/-- What attempts from a state return is the outcome of the last of them. -/
theorem nthOutcome_of_attempt {run : Attempts σ ε α} {outcome : Except ε α}
    (attempted : backoff.attempt retryable operation watched state = run)
    (returned : run.ending = .returned outcome) :
    nthOutcome operation run.waits.length state = outcome := by
  subst attempted
  exact nthOutcome_of_returned backoff watched 0 backoff.initial returned

end Backoff

end FilmFinder
