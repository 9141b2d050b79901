/-!
# Chains of steps that may fail

A chain succeeds exactly when each of its steps does, and then every step has a value.
-/
namespace FilmFinder

variable {ε α β : Type}

/-- A chain that succeeds has a first value, and the rest of the chain succeeds on it. -/
theorem exists_of_bind_eq_ok {first : Except ε α} {next : α → Except ε β} {result : β}
    (done : (first >>= next) = .ok result) :
    ∃ value, first = .ok value ∧ next value = .ok result := by
  cases first with
  | error fault => contradiction
  | ok value => exact ⟨value, rfl, done⟩

/-- An outcome that has a value is a success. -/
theorem eq_ok_of_toOption_eq_some {outcome : Except ε α} {value : α}
    (present : outcome.toOption = some value) : outcome = .ok value := by
  cases outcome with
  | error fault => contradiction
  | ok found => rw [Option.some.inj present]

/-- A list of steps succeeds when each of them does. -/
theorem mapM_eq_ok {step : α → Except ε β} {result : α → β} {items : List α}
    (done : ∀ item ∈ items, step item = .ok (result item)) :
    items.mapM step = .ok (items.map result) := by
  induction items with
  | nil => rfl
  | cons item items induct =>
    rw [List.mapM_cons, done item (.head _), induct fun other inside => done other (.tail _ inside)]
    rfl

/-- A list of steps fails as the first of them does that fails. -/
theorem mapM_eq_error {step : α → Except ε β} {result : α → β} {earlier later : List α} {item : α}
    {error : ε} (done : ∀ other ∈ earlier, step other = .ok (result other))
    (failed : step item = .error error) :
    (earlier ++ item :: later).mapM step = .error error := by
  rw [List.mapM_append, mapM_eq_ok done, List.mapM_cons, failed]
  rfl

end FilmFinder
