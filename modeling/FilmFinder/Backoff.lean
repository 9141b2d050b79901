import FilmFinder.Duration
import FilmFinder.Number.Numeral

/-!
# Waiting between attempts

A backoff says how often an operation is attempted and how long is waited in between. The
first wait is the initial one; each next wait is the one before it times a factor, but no
longer than the longest wait. The next wait is worked out only after a wait is over.
-/
namespace FilmFinder

/-- A rule for repeated attempts. -/
structure Backoff where
  /-- The first wait. -/
  initial : Duration
  /-- The longest of the waits after the first. -/
  longest : Duration
  /-- The factor from one wait to the next. -/
  factor : Binary64
  /-- How many attempts are made in all; without a number there is no end. -/
  attempts : Option Nat
  deriving DecidableEq

namespace Backoff

/-- The rule for the first connection. -/
def startup : Backoff := ⟨.ofMilliseconds 200, .ofMilliseconds 2000, .ofNat 2, some 5⟩

/-- The rule for a search with some attempts after the first one. Their number fits 64 bits. -/
def search (extra : Nat) : Backoff :=
  ⟨.ofMilliseconds 100, .ofMilliseconds 2000, .ofNat 2, some (Nat.min (extra + 1) (wordBound - 1))⟩

/-- The wait after a wait. -/
def next? (backoff : Backoff) (wait : Duration) : Except DurationFault Duration :=
  match wait.scaled? backoff.factor with
  | .ok scaled => .ok (scaled.min backoff.longest)
  | .error fault => .error fault

/-- No attempt follows after some attempts. -/
def isSpent (backoff : Backoff) (made : Nat) : Bool :=
  match backoff.attempts with
  | some attempts => attempts ≤ made
  | none => false

end Backoff

/-- How repeated attempts ended. -/
inductive Ending (ε α : Type) where
  /-- The outcome of the last attempt is returned. -/
  | returned (outcome : Except ε α)
  /-- The next wait could not be worked out. -/
  | broken (fault : DurationFault)
  /-- Another attempt was due when nobody looked any longer. -/
  | unfinished

/-- What repeated attempts did. -/
structure Attempts (σ ε α : Type) where
  /-- The state after the last attempt. -/
  state : σ
  /-- How many attempts were made. -/
  made : Nat
  /-- The waits between the attempts, in order. -/
  waits : List Duration
  /-- How the attempts ended. -/
  ending : Ending ε α

namespace Backoff

variable {σ ε α : Type}

/-- Attempt an operation, watched for so many attempts more, with so many behind and a wait due
after a failure. An outcome is returned when it is a success, when its failure is not to be
tried again, or when no attempt is left. -/
def attemptFrom (backoff : Backoff) (retryable : ε → Bool) (operation : σ → Except ε α × σ) :
    (watched made : Nat) → (wait : Duration) → σ → Attempts σ ε α
  | 0, made, _, state => ⟨state, made, [], .unfinished⟩
  | watched + 1, made, wait, state =>
    match operation state with
    | (.ok value, after) => ⟨after, made + 1, [], .returned (.ok value)⟩
    | (.error failure, after) =>
      if !retryable failure || backoff.isSpent (made + 1) then
        ⟨after, made + 1, [], .returned (.error failure)⟩
      else
        match backoff.next? wait with
        | .error fault => ⟨after, made + 1, [wait], .broken fault⟩
        | .ok longer =>
          let rest := attemptFrom backoff retryable operation watched (made + 1) longer after
          { rest with waits := wait :: rest.waits }

/-- Attempt an operation from a state, watched for so many attempts. -/
def attempt (backoff : Backoff) (retryable : ε → Bool) (operation : σ → Except ε α × σ)
    (watched : Nat) (state : σ) : Attempts σ ε α :=
  attemptFrom backoff retryable operation watched 0 backoff.initial state

end Backoff

end FilmFinder
