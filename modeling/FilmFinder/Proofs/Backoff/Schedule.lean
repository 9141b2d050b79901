import FilmFinder.Proofs.Backoff.Cap

/-!
# Schedules of waits

A rule keeps to a schedule when its first wait is that of the schedule and each wait is followed by
the next one. Attempts under such a rule wait as the schedule says, one wait between each two of
them, and never come to a wait that cannot be worked out. The rule for searches keeps to the
schedule of 100 milliseconds that are doubled up to two seconds: the doubling is exact although it
goes through binary64 seconds, and at two seconds it stays.
-/
namespace FilmFinder

namespace Backoff

/-- A rule keeps to a schedule when it starts with the first wait of the schedule and goes from each
wait to the next. -/
structure Keeps (backoff : Backoff) (schedule : Nat → Duration) : Prop where
  /-- The first wait is that of the schedule. -/
  first : backoff.initial = schedule 0
  /-- Each wait of the schedule is followed by the next one. -/
  next : ∀ index, backoff.next? (schedule index) = .ok (schedule (index + 1))

/-- The waits of a search: 100 milliseconds, doubled each time, but two seconds at most. -/
def searchWait (index : Nat) : Duration :=
  (Duration.ofMilliseconds (100 * Nat.pow 2 index)).min (.ofMilliseconds 2000)

/-- The operation with a count of how often it was carried out. -/
def counted {σ ε α : Type} (operation : σ → Except ε α × σ) (state : σ × Nat) :
    Except ε α × (σ × Nat) :=
  ((operation state.1).1, (operation state.1).2, state.2 + 1)

variable {σ ε α : Type} {backoff : Backoff} {schedule : Nat → Duration} {retryable : ε → Bool}
  {operation : σ → Except ε α × σ} {state : σ}

/-- The wait that is due after some failed attempts is that of the schedule. -/
theorem Keeps.wait?_eq (keeps : backoff.Keeps schedule) (failed : Nat) :
    backoff.wait? failed = .ok (schedule failed) := by
  induction failed with
  | zero => rw [wait?, keeps.first]
  | succ failed step =>
    rw [wait?, step]
    exact keeps.next failed

/-- The waits of a schedule follow one another from any of them on. -/
theorem Keeps.succession (keeps : backoff.Keeps schedule) (start count : Nat) :
    backoff.Succession (schedule start) ((List.range' start count).map schedule) := by
  induction count generalizing start with
  | zero => exact .none _
  | succ count step =>
    have known := keeps.next start
    unfold next? at known
    cases product : (schedule start).scaled? backoff.factor with
    | error fault =>
      rw [product] at known
      contradiction
    | ok scaled =>
      rw [product] at known
      have following : scaled.min backoff.longest = schedule (start + 1) := Except.ok.inj known
      have rest := step (start + 1)
      rw [← following] at rest
      rw [List.range'_succ, List.map_cons]
      exact .wait product rest

/-- Among as many outcomes as the rule allows attempts, one ends them. -/
theorem exists_endsFirst_lt {attempts : Nat} (limited : backoff.attempts = some attempts)
    (positive : 0 < attempts) (retryable : ε → Bool) (operation : σ → Except ε α × σ) (state : σ) :
    ∃ last < attempts, EndsFirst backoff retryable operation state last := by
  have spent : backoff.Ends retryable (attempts - 1 + 1)
      (nthOutcome operation (attempts - 1) state) := .spent limited (by omega) _
  obtain ⟨last, first⟩ := exists_endsFirst spent
  have inside : last < attempts := by
    apply Nat.lt_of_not_le
    intro beyond
    exact first.goesOn (attempts - 1) (by omega) spent
  exact ⟨last, inside, first⟩

/-- Attempts under a rule that keeps to a schedule: the first outcome that ends them is returned,
after the waits of the schedule between each two attempts. -/
theorem Keeps.attempt_eq (keeps : backoff.Keeps schedule) {last : Nat}
    (first : EndsFirst backoff retryable operation state last) {watched : Nat}
    (seen : last < watched) :
    backoff.attempt retryable operation watched state =
      ⟨stateAfter operation (last + 1) state, last + 1, (List.range last).map schedule,
        .returned (nthOutcome operation last state)⟩ := by
  have succession := keeps.succession 0 last
  rw [← keeps.first, ← List.range_eq_range'] at succession
  have size : ((List.range last).map schedule).length = last := by simp
  have run := attemptFrom_of_first succession 0 state
    (by simpa only [size, Nat.zero_add] using first.ends)
    (fun before inside => by
      rw [size] at inside
      simpa only [Nat.zero_add] using first.goesOn before inside)
    (by rwa [size])
  rwa [size, Nat.zero_add] at run

/-- Under failures alone, all attempts that the rule allows are made. -/
theorem Failing.endsFirst_eq (failing : Failing retryable operation state) {attempts last : Nat}
    (limited : backoff.attempts = some attempts)
    (first : EndsFirst backoff retryable operation state last) (inside : last < attempts) :
    last + 1 = attempts := by
  obtain ⟨failure, failed, again⟩ := failing last
  have ends := first.ends
  rw [failed, ends_error_iff, again, isSpent_eq_true_iff] at ends
  rcases ends with contrary | ⟨allowed, same, reached⟩
  · contradiction
  · have equal : allowed = attempts := Option.some.inj (same.symm.trans limited)
    omega

/-- Counting does not change the outcomes. -/
theorem nthOutcome_counted (operation : σ → Except ε α × σ) (before : Nat) (state : σ)
    (count : Nat) :
    nthOutcome (counted operation) before (state, count) = nthOutcome operation before state := by
  induction before generalizing state count with
  | zero => rfl
  | succ before step => exact step (operation state).2 (count + 1)

/-- The count is that of the times the operation was carried out. -/
theorem stateAfter_counted (operation : σ → Except ε α × σ) (times : Nat) (state : σ)
    (count : Nat) :
    stateAfter (counted operation) times (state, count) =
      (stateAfter operation times state, count + times) := by
  induction times generalizing state count with
  | zero => rfl
  | succ times step =>
    show stateAfter (counted operation) times ((operation state).2, count + 1) = _
    rw [step, Nat.add_assoc, Nat.add_comm 1 times]
    rfl

/-- Counting does not change which outcome is the first to end the attempts. -/
theorem EndsFirst.counted {last : Nat}
    (first : EndsFirst backoff retryable operation state last) (count : Nat) :
    EndsFirst backoff retryable (counted operation) (state, count) last := by
  constructor
  · rw [nthOutcome_counted]
    exact first.ends
  · intro before inside
    rw [nthOutcome_counted]
    exact first.goesOn before inside

/-- No wait of a search is longer than two seconds. -/
theorem searchWait_le (index : Nat) :
    (searchWait index).nanoseconds ≤ (Duration.ofMilliseconds 2000).nanoseconds :=
  Nat.min_le_right _ _

/-- The waits of a search do not decrease. -/
theorem searchWait_mono {earlier later : Nat} (ordered : earlier ≤ later) :
    (searchWait earlier).nanoseconds ≤ (searchWait later).nanoseconds := by
  have powers : Nat.pow 2 earlier ≤ Nat.pow 2 later := Nat.pow_le_pow_right (by decide) ordered
  have doubled := Nat.mul_le_mul_right 1000000 (Nat.mul_le_mul_left 100 powers)
  show Nat.min _ _ ≤ Nat.min _ _
  exact Nat.le_min.mpr ⟨Nat.le_trans (Nat.min_le_left _ _) doubled, Nat.min_le_right _ _⟩

/-- From the sixth on, a wait of a search is two seconds. -/
theorem searchWait_of_late (index : Nat) : searchWait (index + 5) = .ofMilliseconds 2000 := by
  have power : Nat.pow 2 (index + 5) = Nat.pow 2 index * 32 := Nat.pow_add 2 index 5
  have positive : 0 < Nat.pow 2 index := Nat.pow_pos (by decide)
  have large : 2000 * 1000000 ≤ 100 * Nat.pow 2 (index + 5) * 1000000 := by
    rw [power]
    omega
  exact congrArg Duration.mk (Nat.min_eq_right large)

/-- Each wait of a search is doubled to the next one, and two seconds stay two seconds. -/
theorem next?_searchWait (index : Nat) :
    (search 0).next? (searchWait index) = .ok (searchWait (index + 1)) := by
  by_cases late : 5 ≤ index
  · obtain ⟨index, rfl⟩ := Nat.exists_eq_add_of_le' late
    have stays : (search 0).next? (.ofMilliseconds 2000) = .ok (.ofMilliseconds 2000) :=
      eq_ok_of_toOption_eq_some (by decide +kernel)
    have next : searchWait (index + 5 + 1) = .ofMilliseconds 2000 := searchWait_of_late (index + 1)
    rw [searchWait_of_late, next, stays]
  · have early : index = 0 ∨ index = 1 ∨ index = 2 ∨ index = 3 ∨ index = 4 := by omega
    rcases early with rfl | rfl | rfl | rfl | rfl <;>
      exact eq_ok_of_toOption_eq_some (by decide +kernel)

/-- What follows a wait depends on the factor and on the longest wait alone. -/
theorem next?_congr {left right : Backoff} (factors : left.factor = right.factor)
    (bounds : left.longest = right.longest) (wait : Duration) :
    left.next? wait = right.next? wait := by
  unfold next?
  rw [factors, bounds]

/-- The rule for searches keeps to the schedule of searches. -/
theorem search_keeps (further : Nat) : (search further).Keeps searchWait := by
  have start : (search further).initial = searchWait 0 := by
    show Duration.ofMilliseconds 100 = searchWait 0
    decide
  have factors : (search further).factor = (search 0).factor := rfl
  have bounds : (search further).longest = (search 0).longest := rfl
  exact ⟨start, fun index => (next?_congr factors bounds _).trans (next?_searchWait index)⟩

/-- The rule for searches allows one attempt more than the further ones, as far as a word counts. -/
theorem search_limit (further : Nat) :
    (search further).attempts = some (Nat.min (further + 1) (wordBound - 1)) ∧
      0 < Nat.min (further + 1) (wordBound - 1) := by
  refine ⟨rfl, ?_⟩
  exact Nat.lt_min.mpr ⟨Nat.succ_pos further, by decide⟩

end Backoff

end FilmFinder
