import FilmFinder.Metrics
import FilmFinder.Proofs.Keyed

/-!
# Counters count events

No two events that are counted share a counter, so a counter stands at the number of times that its
event happened, and a name that is the counter of no event that happened is not in the tally.
-/
namespace FilmFinder

namespace Tally

/-- What a tally has under a name. -/
def of (tally : Tally) (name : String) : Nat := ((tally.find? name).map Prod.snd).getD 0

/-- Counting a name adds one under it and nothing under other names. -/
theorem of_count (tally : Tally) (counted name : String) :
    (tally.count counted).of name = tally.of name + if counted = name then 1 else 0 := by
  unfold of count
  rw [Keyed.find?_insert]
  by_cases same : counted = name
  · subst same
    simp
  · simp [same]

/-- Counting some names adds to each as often as it stands among them. -/
theorem of_foldl_count (names : List String) (start : Tally) (name : String) :
    (names.foldl count start).of name = start.of name + names.count name := by
  induction names generalizing start with
  | nil => rfl
  | cons first names step =>
    rw [List.foldl_cons, step, of_count, List.count_cons]
    by_cases same : first = name
    · simp only [same, ↓reduceIte, beq_self_eq_true]
      omega
    · simp [same]

/-- A name is in a tally of names as often as it stands among them. -/
theorem of_ofNames (names : List String) (name : String) :
    (ofNames names).of name = names.count name := by
  rw [ofNames, of_foldl_count]
  exact Nat.zero_add _

/-- A name that is counted nowhere is not in the tally. -/
theorem find?_foldl_count_of_not_mem {names : List String} {start : Tally} {name : String}
    (absent : name ∉ names) (before : start.find? name = none) :
    (names.foldl count start).find? name = none := by
  induction names generalizing start with
  | nil => exact before
  | cons first names step =>
    rw [List.mem_cons, not_or] at absent
    refine step absent.2 ?_
    rw [count, Keyed.find?_insert, if_neg (Ne.symm absent.1), before]

/-- A name that does not stand among some names is not in their tally. -/
theorem find?_ofNames_of_not_mem {names : List String} {name : String} (absent : name ∉ names) :
    (ofNames names).find? name = none :=
  find?_foldl_count_of_not_mem absent (Keyed.find?_empty name)

end Tally

namespace QueryStatus

/-- The labels of statuses end in different letters. -/
theorem eq_of_last_letter {left right : QueryStatus} :
    left.label.toList.getLast? = right.label.toList.getLast? → left = right := by
  cases left <;> cases right <;> decide

/-- A label ends in a letter. -/
theorem exists_last_letter (status : QueryStatus) :
    ∃ letter, status.label.toList.getLast? = some letter := by
  cases status <;> exact ⟨_, rfl⟩

end QueryStatus

namespace MetricEvent

/-- The counter of a query tells the status by the last letter of its label, and then the engine by
what is left. -/
theorem query_injective {left right : String} {leftStatus rightStatus : QueryStatus}
    (same : (query left leftStatus).counter? = (query right rightStatus).counter?) :
    query left leftStatus = query right rightStatus := by
  have characters := congrArg String.toList (Option.some.inj same)
  simp only [String.toList_append] at characters
  have statuses : leftStatus = rightStatus := by
    have letters := congrArg List.getLast? (List.append_cancel_right characters)
    obtain ⟨leftLetter, leftLast⟩ := leftStatus.exists_last_letter
    obtain ⟨rightLetter, rightLast⟩ := rightStatus.exists_last_letter
    rw [List.getLast?_append, leftLast, List.getLast?_append, List.getLast?_append,
      List.getLast?_append, rightLast] at letters
    exact QueryStatus.eq_of_last_letter (leftLast.trans (letters.trans rightLast.symm))
  subst statuses
  have engines : left = right := String.toList_injective (by simpa using characters)
  rw [engines]

/-- The counter of a fault tells the reason. -/
theorem compileFault_injective {left right : CompileFault} :
    (compileFault left).counter? = (compileFault right).counter? →
      compileFault left = compileFault right := by
  cases left <;> cases right <;> decide +kernel

/-- The counter of a query has another name than that of a fault. -/
theorem query_ne_compileFault (engine : String) (status : QueryStatus) (reason : CompileFault) :
    (query engine status).counter? ≠ (compileFault reason).counter? := by
  intro same
  simpa using congrArg String.toList (Option.some.inj same)

/-- The counter of a query has another name than that of bad payloads. -/
theorem query_ne_badPayload (engine : String) (status : QueryStatus) :
    (query engine status).counter? ≠ badPayload.counter? := by
  intro same
  simpa using congrArg String.toList (Option.some.inj same)

/-- The counter of a fault has another name than that of bad payloads. -/
theorem compileFault_ne_badPayload (reason : CompileFault) :
    (compileFault reason).counter? ≠ badPayload.counter? := by
  intro same
  simpa using congrArg String.toList (Option.some.inj same)

/-- No two events that are counted share a counter. -/
theorem counter?_injective {left right : MetricEvent} {name : String}
    (leftNamed : left.counter? = some name) (rightNamed : right.counter? = some name) :
    left = right := by
  have same := leftNamed.trans rightNamed.symm
  cases left with
  | query engine status =>
    cases right with
    | query other otherStatus => exact query_injective same
    | compileFault reason => exact absurd same (query_ne_compileFault engine status reason)
    | badPayload => exact absurd same (query_ne_badPayload engine status)
    | latency other => contradiction
    | pageSize items => contradiction
  | compileFault reason =>
    cases right with
    | query engine status => exact absurd same.symm (query_ne_compileFault engine status reason)
    | compileFault other => exact compileFault_injective same
    | badPayload => exact absurd same (compileFault_ne_badPayload reason)
    | latency other => contradiction
    | pageSize items => contradiction
  | badPayload =>
    cases right with
    | query engine status => exact absurd same.symm (query_ne_badPayload engine status)
    | compileFault reason => exact absurd same.symm (compileFault_ne_badPayload reason)
    | badPayload => rfl
    | latency other => contradiction
    | pageSize items => contradiction
  | latency engine => contradiction
  | pageSize items => contradiction

/-- What a tally has under the counter of an event. -/
def timesIn (tally : Tally) (event : MetricEvent) : Nat := (event.counter?.map tally.of).getD 0

/-- A counter stands at the number of times that its event happened. -/
theorem timesIn_counters (events : List MetricEvent) {event : MetricEvent} {name : String}
    (named : event.counter? = some name) :
    event.timesIn (counters events) = events.count event := by
  unfold timesIn counters
  rw [named, Option.map_some, Option.getD_some, Tally.of_ofNames, List.count_filterMap,
    List.count_eq_countP]
  refine List.countP_congr fun other _ => ?_
  rw [beq_iff_eq, beq_iff_eq]
  exact ⟨fun otherNamed => counter?_injective otherNamed named, fun same => same ▸ named⟩

/-- A name that is the counter of no event that happened is not in the tally. -/
theorem find?_counters_of_none {events : List MetricEvent} {name : String}
    (absent : ∀ event ∈ events, event.counter? ≠ some name) :
    (counters events).find? name = none := by
  refine Tally.find?_ofNames_of_not_mem fun listed => ?_
  obtain ⟨event, happened, named⟩ := List.mem_filterMap.mp listed
  exact absent event happened named

/-- How often some events happened in all. -/
def total : (counted : List MetricEvent) → (events : List MetricEvent) → Nat
  | [], _ => 0
  | event :: counted, events => events.count event + total counted events

/-- Nothing happened at first. -/
theorem total_nil (counted : List MetricEvent) : total counted [] = 0 := by
  induction counted with
  | nil => rfl
  | cons event counted step => rw [total, step, List.count_nil]

/-- Events happened as often as they did before and after. -/
theorem total_append (counted before after : List MetricEvent) :
    total counted (before ++ after) = total counted before + total counted after := by
  induction counted with
  | nil => rfl
  | cons event counted step =>
    simp only [total, List.count_append, step]
    omega

end MetricEvent

end FilmFinder
