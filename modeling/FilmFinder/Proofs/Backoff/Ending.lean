import FilmFinder.Proofs.Backoff
import FilmFinder.Proofs.Chain

/-!
# The attempt that ends the others

Attempts end with the first outcome that is a success, a failure that is not to be tried again, or
the last that the rule allows. That outcome is returned, and between each two attempts there is one
wait. As long as no outcome ends them, the attempts go on.
-/
namespace FilmFinder

namespace Backoff

/-- An outcome ends the attempts of which it is the last of so many. -/
inductive Ends {ε α : Type} (backoff : Backoff) (retryable : ε → Bool) (made : Nat) :
    Except ε α → Prop
  /-- A success ends them. -/
  | success (value : α) : Ends backoff retryable made (.ok value)
  /-- A failure that is not to be tried again ends them. -/
  | refused {failure : ε} (final : retryable failure = false) :
    Ends backoff retryable made (.error failure)
  /-- Whatever the outcome, the last attempt that the rule allows ends them. -/
  | spent {attempts : Nat} (limited : backoff.attempts = some attempts) (reached : attempts ≤ made)
    (outcome : Except ε α) : Ends backoff retryable made outcome

/-- Waits one after another, the first of them given: each next one is the one before it times the
factor, or the longest wait where that is shorter. -/
inductive Succession (backoff : Backoff) : Duration → List Duration → Prop
  /-- No wait. -/
  | none (first : Duration) : Succession backoff first []
  /-- A wait and those after it. -/
  | wait {first scaled : Duration} {later : List Duration}
    (product : first.scaled? backoff.factor = .ok scaled)
    (rest : Succession backoff (scaled.min backoff.longest) later) :
    Succession backoff first (first :: later)

/-- The state once an operation was carried out so many times. -/
def stateAfter {σ ε α : Type} (operation : σ → Except ε α × σ) : (times : Nat) → σ → σ
  | 0, state => state
  | times + 1, state => stateAfter operation times (operation state).2

variable {σ ε α : Type} {backoff : Backoff} {retryable : ε → Bool}
  {operation : σ → Except ε α × σ} {state : σ}

/-- Of the outcomes of an operation, one ends the attempts, and none before it does. -/
structure EndsFirst (backoff : Backoff) (retryable : ε → Bool) (operation : σ → Except ε α × σ)
    (state : σ) (last : Nat) : Prop where
  /-- The outcome after so many others ends the attempts. -/
  ends : backoff.Ends retryable (last + 1) (nthOutcome operation last state)
  /-- The others do not. -/
  goesOn : ∀ before < last,
    ¬ backoff.Ends retryable (before + 1) (nthOutcome operation before state)

/-- A rule is spent after so many attempts when it allows no more. -/
theorem isSpent_eq_true_iff {made : Nat} :
    backoff.isSpent made = true ↔
      ∃ attempts, backoff.attempts = some attempts ∧ attempts ≤ made := by
  unfold isSpent
  cases backoff.attempts with
  | none => simp
  | some attempts => simp

/-- A failure ends the attempts when it is not to be tried again or the rule is spent. -/
theorem ends_error_iff {failure : ε} {made : Nat} :
    backoff.Ends retryable made (.error failure : Except ε α) ↔
      retryable failure = false ∨ backoff.isSpent made = true := by
  constructor
  · intro ends
    cases ends with
    | refused final => exact .inl final
    | spent limited reached => exact .inr (isSpent_eq_true_iff.mpr ⟨_, limited, reached⟩)
  · rintro (final | spent)
    · exact .refused final
    · obtain ⟨attempts, limited, reached⟩ := isSpent_eq_true_iff.mp spent
      exact .spent limited reached _

/-- An outcome that does not end the attempts is a failure to be tried again, and the rule is not
spent. -/
theorem exists_failure_of_not_ends {made : Nat} {outcome : Except ε α}
    (goesOn : ¬ backoff.Ends retryable made outcome) :
    ∃ failure, outcome = .error failure ∧ retryable failure = true ∧
      backoff.isSpent made = false := by
  cases outcome with
  | ok value => exact absurd (.success value) goesOn
  | error failure =>
    rw [ends_error_iff, not_or, Bool.not_eq_false, Bool.not_eq_true] at goesOn
    exact ⟨failure, rfl, goesOn⟩

/-- An attempt whose outcome ends the attempts is the last. -/
theorem attemptFrom_of_ends {made : Nat}
    (ends : backoff.Ends retryable (made + 1) (operation state).1) (watched : Nat)
    (wait : Duration) :
    backoff.attemptFrom retryable operation (watched + 1) made wait state =
      ⟨(operation state).2, made + 1, [], .returned (operation state).1⟩ := by
  rcases done : operation state with ⟨failure | value, after⟩
  · rw [done] at ends
    exact attemptFrom_of_last backoff watched made wait done (ends_error_iff.mp ends)
  · exact attemptFrom_of_success backoff watched made wait done

/-- An attempt whose outcome does not end the attempts is followed by the wait that is due and by
further attempts. -/
theorem attemptFrom_of_not_ends {made : Nat}
    (goesOn : ¬ backoff.Ends retryable (made + 1) (operation state).1) {wait scaled : Duration}
    (product : wait.scaled? backoff.factor = .ok scaled) (watched : Nat) :
    let rest := backoff.attemptFrom retryable operation watched (made + 1)
      (scaled.min backoff.longest) (operation state).2
    backoff.attemptFrom retryable operation (watched + 1) made wait state =
      { rest with waits := wait :: rest.waits } := by
  obtain ⟨failure, outcome, again, left⟩ := exists_failure_of_not_ends goesOn
  have failed : operation state = (.error failure, (operation state).2) := by
    rw [← outcome]
  have known : backoff.next? wait = .ok (scaled.min backoff.longest) := by
    rw [next?, product]
  exact attemptFrom_of_next backoff watched made wait failed again left known

/-- Attempts end with the first outcome that ends them, after as many waits as outcomes before. -/
theorem attemptFrom_of_first {wait : Duration} {waits : List Duration}
    (succession : backoff.Succession wait waits) (made : Nat) (state : σ)
    (ends : backoff.Ends retryable (made + waits.length + 1)
      (nthOutcome operation waits.length state))
    (goesOn : ∀ before < waits.length,
      ¬ backoff.Ends retryable (made + before + 1) (nthOutcome operation before state))
    {watched : Nat} (seen : waits.length < watched) :
    backoff.attemptFrom retryable operation watched made wait state =
      ⟨stateAfter operation (waits.length + 1) state, made + waits.length + 1, waits,
        .returned (nthOutcome operation waits.length state)⟩ := by
  obtain ⟨watched, rfl⟩ : ∃ left, watched = left + 1 :=
    Nat.exists_eq_add_one.mpr (Nat.zero_lt_of_lt seen)
  induction succession generalizing made state watched with
  | none first => exact attemptFrom_of_ends ends watched first
  | @wait first scaled later product rest step =>
    obtain ⟨watched, rfl⟩ : ∃ left, watched = left + 1 :=
      Nat.exists_eq_add_one.mpr (Nat.zero_lt_of_lt (Nat.lt_of_succ_lt_succ seen))
    have further := step (made + 1) (operation state).2
      (by
        simpa only [List.length_cons, nthOutcome, Nat.add_right_comm made 1, ← Nat.add_assoc]
          using ends)
      (fun before inside => by
        simpa only [nthOutcome, Nat.add_right_comm made 1, ← Nat.add_assoc] using
          goesOn (before + 1) (Nat.succ_lt_succ inside))
      watched (Nat.lt_of_succ_lt_succ seen)
    rw [attemptFrom_of_not_ends (goesOn 0 (Nat.succ_pos _)) product, further]
    simp only [List.length_cons, nthOutcome, stateAfter, Nat.add_right_comm made 1,
      ← Nat.add_assoc]

/-- Attempts none of which ends them are all made, each followed by a wait. -/
theorem attemptFrom_of_goesOn {wait : Duration} {waits : List Duration}
    (succession : backoff.Succession wait waits) (made : Nat) (state : σ)
    (goesOn : ∀ before < waits.length,
      ¬ backoff.Ends retryable (made + before + 1) (nthOutcome operation before state)) :
    backoff.attemptFrom retryable operation waits.length made wait state =
      ⟨stateAfter operation waits.length state, made + waits.length, waits, .unfinished⟩ := by
  induction succession generalizing made state with
  | none first => rfl
  | @wait first scaled later product rest step =>
    have further := step (made + 1) (operation state).2 fun before inside => by
      simpa only [nthOutcome, Nat.add_right_comm made 1, ← Nat.add_assoc] using
        goesOn (before + 1) (Nat.succ_lt_succ inside)
    rw [List.length_cons, attemptFrom_of_not_ends (goesOn 0 (Nat.succ_pos _)) product, further]
    simp only [stateAfter, Nat.add_right_comm made 1, ← Nat.add_assoc]

/-- Of outcomes one of which ends the attempts, there is a first that does. -/
theorem exists_endsFirst {index : Nat}
    (ends : backoff.Ends retryable (index + 1) (nthOutcome operation index state)) :
    ∃ last, EndsFirst backoff retryable operation state last := by
  induction index using Nat.strongRecOn with
  | ind index earlier =>
    by_cases found : ∃ before < index,
        backoff.Ends retryable (before + 1) (nthOutcome operation before state)
    · obtain ⟨before, inside, endsBefore⟩ := found
      exact earlier before inside endsBefore
    · exact ⟨index, ends, fun before inside endsBefore => found ⟨before, inside, endsBefore⟩⟩

/-- No outcome ends the attempts exactly when there is no limit to them and every outcome is a
failure to be tried again. -/
theorem never_ends_iff :
    (∀ last, ¬ EndsFirst backoff retryable operation state last) ↔
      backoff.attempts = none ∧ ∀ index, ∃ failure,
        nthOutcome operation index state = .error failure ∧ retryable failure = true := by
  constructor
  · intro never
    have goesOn : ∀ index,
        ¬ backoff.Ends retryable (index + 1) (nthOutcome operation index state) := by
      intro index ends
      obtain ⟨last, first⟩ := exists_endsFirst ends
      exact never last first
    refine ⟨?_, fun index => ?_⟩
    · cases limit : backoff.attempts with
      | none => rfl
      | some attempts =>
        have reached : attempts ≤ attempts + 1 := Nat.le_succ attempts
        exact absurd (.spent limit reached _) (goesOn attempts)
    · obtain ⟨failure, failed, again, -⟩ := exists_failure_of_not_ends (goesOn index)
      exact ⟨failure, failed, again⟩
  · rintro ⟨unlimited, failing⟩ last first
    obtain ⟨failure, failed, again⟩ := failing last
    have unspent : backoff.isSpent (last + 1) = false := by
      rw [isSpent, unlimited]
    have ends := first.ends
    rw [failed, ends_error_iff, again, unspent] at ends
    rcases ends with contrary | contrary <;> contradiction

/-- A rule for no attempt makes one like a rule for one attempt. -/
theorem attempt_of_none_allowed (backoff : Backoff) (retryable : ε → Bool)
    (operation : σ → Except ε α × σ) (watched : Nat) (state : σ) :
    { backoff with attempts := some 0 }.attempt retryable operation watched state =
      { backoff with attempts := some 1 }.attempt retryable operation watched state := by
  have spent (outcome : Except ε α) (attempts : Nat) (few : attempts ≤ 1) :
      Ends { backoff with attempts := some attempts } retryable 1 outcome :=
    .spent rfl few outcome
  cases watched with
  | zero => rfl
  | succ watched =>
    unfold attempt
    rw [attemptFrom_of_ends (spent _ 0 (by decide)), attemptFrom_of_ends (spent _ 1 (by decide))]

/-- The first outcome that is a success, a failure that is not to be tried again or the last that
the rule allows is returned. Just the attempts up to it are made, with one wait between each two:
the initial wait, and then each time the wait before times the factor, or the longest wait where
that is shorter. There is such an outcome unless the attempts have no limit and every outcome is a
failure to be tried again; then any number of attempts is made without an end. A rule for no attempt
does what a rule for one does. -/
theorem attempt_returns_first_end (backoff : Backoff) (retryable : ε → Bool)
    (operation : σ → Except ε α × σ) (state : σ) :
    (∀ last, EndsFirst backoff retryable operation state last →
      ∀ waits, backoff.Succession backoff.initial waits → waits.length = last →
        ∀ watched, last < watched →
          backoff.attempt retryable operation watched state =
            ⟨stateAfter operation (last + 1) state, last + 1, waits,
              .returned (nthOutcome operation last state)⟩) ∧
      ((∀ last, ¬ EndsFirst backoff retryable operation state last) ↔
        backoff.attempts = none ∧ ∀ index, ∃ failure,
          nthOutcome operation index state = .error failure ∧ retryable failure = true) ∧
      ((∀ last, ¬ EndsFirst backoff retryable operation state last) →
        ∀ waits, backoff.Succession backoff.initial waits →
          backoff.attempt retryable operation waits.length state =
            ⟨stateAfter operation waits.length state, waits.length, waits, .unfinished⟩) ∧
      ∀ watched,
        { backoff with attempts := some 0 }.attempt retryable operation watched state =
          { backoff with attempts := some 1 }.attempt retryable operation watched state := by
  refine ⟨?_, never_ends_iff, ?_, fun watched => ?_⟩
  · rintro last first waits succession rfl watched seen
    have run := attemptFrom_of_first succession 0 state (by simpa using first.ends)
      (fun before inside => by simpa using first.goesOn before inside) seen
    rwa [Nat.zero_add] at run
  · intro never waits succession
    have goesOn : ∀ before < waits.length,
        ¬ backoff.Ends retryable (0 + before + 1) (nthOutcome operation before state) := by
      intro before _ ends
      rw [Nat.zero_add] at ends
      obtain ⟨last, first⟩ := exists_endsFirst ends
      exact never last first
    have run := attemptFrom_of_goesOn succession 0 state goesOn
    rwa [Nat.zero_add] at run
  · exact attempt_of_none_allowed backoff retryable operation watched state

/-- Two failures and a success under a rule for five attempts: the second wait is the longest one,
and the success is returned. -/
theorem attempt_returns_first_end_third :
    let backoff : Backoff := ⟨.ofMilliseconds 100, .ofMilliseconds 150, .ofNat 2, some 5⟩
    let operation : Nat → Except String Nat × Nat := fun calls =>
      (if calls < 2 then .error "reset" else .ok 7, calls + 1)
    let waits : List Duration := [.ofMilliseconds 100, .ofMilliseconds 150]
    EndsFirst backoff (fun _ => true) operation 0 2 ∧
      backoff.Succession backoff.initial waits ∧
      backoff.attempt (fun _ => true) operation 9 0 = ⟨3, 3, waits, .returned (.ok 7)⟩ := by
  intro backoff operation waits
  have first : EndsFirst backoff (fun _ => true) operation 0 2 := by
    refine ⟨.success 7, fun before inside ends => ?_⟩
    have passing : nthOutcome operation before 0 = .error "reset" ∧
        backoff.isSpent (before + 1) = false :=
      match before, inside with
      | 0, _ => ⟨rfl, rfl⟩
      | 1, _ => ⟨rfl, rfl⟩
    rw [passing.1, ends_error_iff, passing.2] at ends
    rcases ends with contrary | contrary <;> contradiction
  have doubled : backoff.initial.scaled? backoff.factor = .ok (.ofMilliseconds 200) :=
    eq_ok_of_toOption_eq_some (by simp only [backoff]; decide +kernel)
  have redoubled : backoff.longest.scaled? backoff.factor = .ok (.ofMilliseconds 300) :=
    eq_ok_of_toOption_eq_some (by simp only [backoff]; decide +kernel)
  have capped : (Duration.ofMilliseconds 200).min backoff.longest = backoff.longest := by
    decide +kernel
  have succession : backoff.Succession backoff.initial waits := by
    refine .wait doubled ?_
    rw [capped]
    exact .wait redoubled (.none _)
  obtain ⟨returned, -⟩ := attempt_returns_first_end backoff (fun _ => true) operation 0
  exact ⟨first, succession, returned 2 first waits succession rfl 9 (by decide)⟩

end Backoff

end FilmFinder
