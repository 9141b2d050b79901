import FilmFinder.Proofs.Backoff.Ending
import FilmFinder.Proofs.Duration

/-!
# The longest wait

The longest wait bounds every wait after the first, whatever the operation does. The first wait is
the initial one, which nothing bounds, and each product is worked out before it is bounded. So the
waits are bounded and all exist exactly when the initial wait takes part in both.
-/
namespace FilmFinder

open Binary64 (Finite)

namespace Backoff

variable {σ ε α : Type} {backoff : Backoff} {retryable : ε → Bool}
  {operation : σ → Except ε α × σ} {state : σ}

/-- No run waits longer than the longest wait. -/
def Capped (backoff : Backoff) (retryable : ε → Bool) (operation : σ → Except ε α × σ)
    (state : σ) : Prop :=
  ∀ watched, ∀ wait ∈ (backoff.attempt retryable operation watched state).waits,
    wait.nanoseconds ≤ backoff.longest.nanoseconds

/-- No run comes to a wait that cannot be worked out. -/
def Unbroken (backoff : Backoff) (retryable : ε → Bool) (operation : σ → Except ε α × σ)
    (state : σ) : Prop :=
  ∀ watched fault, (backoff.attempt retryable operation watched state).ending ≠ .broken fault

/-- Every outcome is a failure that is to be tried again. -/
def Failing (retryable : ε → Bool) (operation : σ → Except ε α × σ) (state : σ) : Prop :=
  ∀ index, ∃ failure, nthOutcome operation index state = .error failure ∧ retryable failure = true

/-- The wait after a wait is no longer than the longest. -/
theorem next?_le {wait longer : Duration} (next : backoff.next? wait = .ok longer) :
    longer.nanoseconds ≤ backoff.longest.nanoseconds := by
  unfold next? at next
  split at next
  · rw [← Except.ok.inj next]
    exact Nat.min_le_right _ _
  · contradiction

/-- Attempts that start with a wait no longer than the longest have no longer one. -/
theorem attemptFrom_capped {watched made : Nat} {wait : Duration} {state : σ}
    (short : wait.nanoseconds ≤ backoff.longest.nanoseconds) :
    ∀ other ∈ (backoff.attemptFrom retryable operation watched made wait state).waits,
      other.nanoseconds ≤ backoff.longest.nanoseconds := by
  fun_induction attemptFrom backoff retryable operation watched made wait state with
  | case1 made wait state => simp
  | case2 watched made wait state value after done => simp
  | case3 watched made wait state failure after failed last => simp
  | case4 watched made wait state failure after failed again fault unknown => simpa using short
  | case5 watched made wait state failure after failed again longer known rest step =>
    intro other inside
    rcases List.mem_cons.mp inside with rfl | later
    · exact short
    · exact step (next?_le known) other later

/-- Whatever the first wait, the waits after it are no longer than the longest. -/
theorem attemptFrom_tail_capped (watched made : Nat) (wait : Duration) (state : σ) :
    ∀ other ∈ (backoff.attemptFrom retryable operation watched made wait state).waits.tail,
      other.nanoseconds ≤ backoff.longest.nanoseconds := by
  fun_cases attemptFrom backoff retryable operation watched made wait state with
  | case1 made wait state => simp
  | case2 watched made wait state value after done => simp
  | case3 watched made wait state failure after failed last => simp
  | case4 watched made wait state failure after failed again fault unknown => simp
  | case5 watched made wait state failure after failed again longer known rest =>
    exact attemptFrom_capped (next?_le known)

/-- Where the products of the first wait and of the longest exist, no attempts come to a wait that
cannot be worked out. -/
theorem attemptFrom_unbroken {factor : Finite} (isFactor : backoff.factor = .finite factor)
    (unsigned : 0 ≤ factor.signedUnits)
    (longest : ∃ product, backoff.longest.scaled? backoff.factor = .ok product)
    {watched made : Nat} {wait : Duration} {state : σ}
    (first : ∃ product, wait.scaled? backoff.factor = .ok product) (fault : DurationFault) :
    (backoff.attemptFrom retryable operation watched made wait state).ending ≠ .broken fault := by
  fun_induction attemptFrom backoff retryable operation watched made wait state with
  | case1 made wait state => simp
  | case2 watched made wait state value after done => simp
  | case3 watched made wait state failure after failed last => simp
  | case4 watched made wait state failure after failed again unknown next =>
    obtain ⟨product, known⟩ := first
    rw [next?, known] at next
    contradiction
  | case5 watched made wait state failure after failed again longer known rest step =>
    refine step ?_
    obtain ⟨product, bounded⟩ := longest
    rw [isFactor] at bounded ⊢
    obtain ⟨smaller, following, -⟩ := Duration.scaled?_mono unsigned (next?_le known) bounded
    exact ⟨smaller, following⟩

/-- Attempts break off behind a wait after which the next one cannot be worked out. -/
theorem attemptFrom_of_broken {watched made : Nat} {wait : Duration} {state after : σ} {failure : ε}
    (failed : operation state = (.error failure, after)) (again : retryable failure = true)
    (left : backoff.isSpent (made + 1) = false) {fault : DurationFault}
    (unknown : backoff.next? wait = .error fault) :
    backoff.attemptFrom retryable operation (watched + 1) made wait state =
      ⟨after, made + 1, [wait], .broken fault⟩ := by
  have continues : ¬ (!retryable failure || backoff.isSpent (made + 1)) = true := by
    rw [again, left]
    decide
  rw [attemptFrom, failed]
  change (if _ then _ else _) = _
  rw [if_neg continues, unknown]

/-- An operation that fails in every state fails every time. -/
theorem Failing.of_states (retryable : ε → Bool) {operation : σ → Except ε α × σ}
    (fails : ∀ state, ∃ failure, (operation state).1 = .error failure ∧ retryable failure = true)
    (state : σ) : Failing retryable operation state := by
  intro index
  induction index generalizing state with
  | zero => exact fails state
  | succ index step => exact step (operation state).2

/-- A first attempt that fails, and need not be the last, is followed by the initial wait. When the
wait after that cannot be worked out, nothing more is done. -/
theorem Failing.attempt_first (failing : Failing retryable operation state)
    (left : backoff.isSpent 1 = false) (watched : Nat) :
    backoff.initial ∈ (backoff.attempt retryable operation (watched + 1) state).waits ∧
      ∀ fault, backoff.next? backoff.initial = .error fault →
        backoff.attempt retryable operation (watched + 1) state =
          ⟨(operation state).2, 1, [backoff.initial], .broken fault⟩ := by
  obtain ⟨failure, outcome, again⟩ := failing 0
  have failed : operation state = (.error failure, (operation state).2) := by
    rw [← outcome]
    rfl
  unfold attempt
  cases next : backoff.next? backoff.initial with
  | ok longer =>
    rw [attemptFrom_of_next backoff watched 0 backoff.initial failed again left next]
    exact ⟨.head _, nofun⟩
  | error fault =>
    rw [attemptFrom_of_broken failed again left next]
    refine ⟨.head _, fun other same => ?_⟩
    rw [Except.error.inj same]

/-- A rule for one attempt waits for nothing. -/
theorem attempt_waits_of_isSpent (spent : backoff.isSpent 1 = true) (watched : Nat) :
    (backoff.attempt retryable operation watched state).waits = [] := by
  cases watched with
  | zero => rfl
  | succ watched =>
    obtain ⟨attempts, limited, reached⟩ := isSpent_eq_true_iff.mp spent
    unfold attempt
    rw [attemptFrom_of_ends (.spent limited reached _)]

/-- Under failures alone, the waits are all within the longest one exactly when the initial wait is,
or when no second attempt is made. -/
theorem Failing.capped_iff (failing : Failing retryable operation state) :
    Capped backoff retryable operation state ↔
      backoff.initial.nanoseconds ≤ backoff.longest.nanoseconds ∨ backoff.isSpent 1 = true := by
  constructor
  · intro capped
    cases spent : backoff.isSpent 1 with
    | true => exact .inr rfl
    | false => exact .inl (capped 1 _ (failing.attempt_first spent 0).1)
  · rintro (short | spent) watched
    · exact attemptFrom_capped short
    · rw [attempt_waits_of_isSpent spent]
      exact nofun

/-- Under failures alone, and a factor that is finite and not below zero, every wait after the first
is within the longest. All waits are when the initial wait is too, or when no second attempt is
made, and not otherwise. Where the products of the initial and of the longest wait exist, every wait
can be worked out. Where that of the initial wait does not, and a second attempt is due, the
attempts break off after the initial wait. -/
theorem waits_after_first_capped (backoff : Backoff) {factor : Finite}
    (isFactor : backoff.factor = .finite factor) (unsigned : 0 ≤ factor.signedUnits)
    (retryable : ε → Bool) (operation : σ → Except ε α × σ) (state : σ)
    (failing : Failing retryable operation state) :
    (∀ watched, ∀ wait ∈ (backoff.attempt retryable operation watched state).waits.tail,
        wait.nanoseconds ≤ backoff.longest.nanoseconds) ∧
      (Capped backoff retryable operation state ↔
        backoff.initial.nanoseconds ≤ backoff.longest.nanoseconds ∨ backoff.isSpent 1 = true) ∧
      ((∃ product, backoff.initial.scaled? backoff.factor = .ok product) →
        (∃ product, backoff.longest.scaled? backoff.factor = .ok product) →
          Unbroken backoff retryable operation state) ∧
      ∀ fault, backoff.initial.scaled? backoff.factor = .error fault →
        backoff.isSpent 1 = false → ∀ watched,
          backoff.attempt retryable operation (watched + 1) state =
            ⟨(operation state).2, 1, [backoff.initial], .broken fault⟩ := by
  refine ⟨fun watched => attemptFrom_tail_capped watched 0 backoff.initial state,
    failing.capped_iff, ?_, ?_⟩
  · intro initial longest watched fault
    exact attemptFrom_unbroken isFactor unsigned longest initial fault
  · intro fault unknown left watched
    refine (failing.attempt_first left watched).2 fault ?_
    rw [next?, unknown]

/-- A rule that starts within its longest wait, doubles the waits and has no limit: whatever number
of failures is watched, no wait is longer than the longest, and none is missing. -/
theorem waits_after_first_capped_doubling :
    let backoff : Backoff := ⟨.ofMilliseconds 100, .ofMilliseconds 2000, .ofNat 2, none⟩
    let operation : Nat → Except String Nat × Nat := fun calls => (.error "reset", calls + 1)
    Capped backoff (fun _ => true) operation 0 ∧ Unbroken backoff (fun _ => true) operation 0 := by
  intro backoff operation
  let two : Finite := ⟨false, Binary64.leadingBit, 1023, by decide⟩
  have factor : backoff.factor = .finite two := by decide +kernel
  have failing : Failing (fun _ => true) operation 0 :=
    .of_states (fun _ => true) (fun _ => ⟨"reset", rfl, rfl⟩) 0
  have doubled : backoff.initial.scaled? backoff.factor = .ok (.ofMilliseconds 200) :=
    eq_ok_of_toOption_eq_some (by simp only [backoff]; decide +kernel)
  have redoubled : backoff.longest.scaled? backoff.factor = .ok (.ofMilliseconds 4000) :=
    eq_ok_of_toOption_eq_some (by simp only [backoff]; decide +kernel)
  obtain ⟨-, capped, unbroken, -⟩ := waits_after_first_capped backoff factor (by decide +kernel)
    (fun _ => true) operation 0 failing
  exact ⟨capped.mpr (.inl (by decide)), unbroken ⟨_, doubled⟩ ⟨_, redoubled⟩⟩

/-- Two rules that fail their bounds: one starts with five seconds and waits for one second at the
longest, and the other one multiplies its first second by `10 ^ 300`. -/
theorem not_all_capped_or_unbroken :
    let operation : Nat → Except String Nat × Nat := fun calls => (.error "reset", calls + 1)
    let long : Backoff := ⟨.ofMilliseconds 5000, .ofMilliseconds 1000, .ofNat 2, none⟩
    let steep : Backoff :=
      ⟨.ofMilliseconds 1000, .ofMilliseconds 2000, .ofDecimal false 1 300, none⟩
    Failing (fun _ => true) operation 0 ∧
      (∃ factor : Finite, long.factor = .finite factor ∧ 0 ≤ factor.signedUnits) ∧
      ¬ Capped long (fun _ => true) operation 0 ∧
      (∃ factor : Finite, steep.factor = .finite factor ∧ 0 ≤ factor.signedUnits) ∧
      ¬ Unbroken steep (fun _ => true) operation 0 := by
  intro operation long steep
  have failing : Failing (fun _ => true) operation 0 :=
    .of_states (fun _ => true) (fun _ => ⟨"reset", rfl, rfl⟩) 0
  let two : Finite := ⟨false, Binary64.leadingBit, 1023, by decide⟩
  let power : Finite := ⟨false, 6724873095247260, 2018, by decide⟩
  have longFactor : long.factor = .finite two := by decide +kernel
  have steepFactor : steep.factor = .finite power := by decide +kernel
  have unsigned : 0 ≤ power.signedUnits := by decide +kernel
  refine ⟨failing, ⟨two, longFactor, by decide +kernel⟩, fun capped => ?_,
    ⟨power, steepFactor, unsigned⟩, fun unbroken => ?_⟩
  · rcases failing.capped_iff.mp capped with short | spent
    · exact absurd short (by decide)
    · exact absurd spent Bool.false_ne_true
  · have large : ¬ Duration.productUnits ⟨false, 6724873095247260, 2018, by decide⟩
        (.ofMilliseconds 1000) < wordBound * Binary64.unitsPerOne := by decide +kernel
    have noProduct : ¬ steep.initial.HasProduct power := fun known => large known.held
    have unknown : steep.next? steep.initial = .error .tooBig := by
      rw [next?, steepFactor, Duration.scaled?_of_not_hasProduct unsigned noProduct]
    have left : steep.isSpent 1 = false := rfl
    have broken := (failing.attempt_first left 0).2 _ unknown
    exact unbroken 1 .tooBig (by rw [broken])

end Backoff

end FilmFinder
