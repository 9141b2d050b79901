import FilmFinder.Criteria

/-!
# What steps add

A step of building criteria adds sets and intervals behind those that are there, and what it adds
does not depend on what is there. So the sets of criteria are those that each step adds, one step
after another, and so are the intervals. The free text is that of the last step that sets one.
-/
namespace FilmFinder

namespace CriteriaStep

/-- The sets that a step adds. -/
def sets : CriteriaStep → List SetCriterion
  | .set field values operator => (SetCriterion.of? field values operator).toList
  | .givenSet criterion => criterion.toList
  | _ => []

/-- The intervals that a step adds. -/
def ranges : CriteriaStep → List RangeCriterion
  | .range field lower upper =>
    let criterion := RangeCriterion.of field lower upper
    if criterion.shape = .absent then [] else [criterion]
  | .givenRange criterion => [criterion]
  | _ => []

/-- The step sets no free text. -/
def IsSilent : CriteriaStep → Prop
  | .text _ => False
  | _ => True

end CriteriaStep

namespace SetCriterion

variable {field : String} {values : List String} {operator : Operator}

/-- Blank values give no set. -/
theorem of?_of_blank (blank : ∀ value ∈ values, Text.trim value = "") :
    of? field values operator = none := by
  have dropped : (values.map Text.trim).filter (· ≠ "") = [] := by
    simpa using blank
  have left : ¬ (ValueSet.ofTyped values).items ≠ [] := by
    unfold ValueSet.ofTyped
    rw [dropped]
    exact fun some => some rfl
  exact dif_neg left

/-- A set of typed values is on the field that they are typed for. -/
theorem field_of_of? {criterion : SetCriterion}
    (built : of? field values operator = some criterion) : criterion.field = field := by
  unfold of? at built
  dsimp only at built
  split at built
  · exact congrArg SetCriterion.field (Option.some.inj built).symm
  · contradiction

end SetCriterion

namespace Criteria

variable (criteria : Criteria)

/-- What a typed set adds. -/
theorem set_adds (field : String) (values : List String) (operator : Operator) :
    (criteria.set field values operator).text = criteria.text ∧
      (criteria.set field values operator).sets =
        criteria.sets ++ (SetCriterion.of? field values operator).toList ∧
      (criteria.set field values operator).ranges = criteria.ranges := by
  unfold set
  cases SetCriterion.of? field values operator with
  | none => exact ⟨rfl, (List.append_nil _).symm, rfl⟩
  | some criterion => exact ⟨rfl, rfl, rfl⟩

/-- What an interval adds. -/
theorem range_adds (field : String) (lower upper : Option Binary64) :
    (criteria.range field lower upper).text = criteria.text ∧
      (criteria.range field lower upper).sets = criteria.sets ∧
      (criteria.range field lower upper).ranges =
        criteria.ranges ++ (CriteriaStep.range field lower upper).ranges := by
  unfold range CriteriaStep.ranges
  dsimp only
  split
  · exact ⟨rfl, rfl, (List.append_nil _).symm⟩
  · exact ⟨rfl, rfl, rfl⟩

/-- A step adds its sets behind those that are there. -/
theorem sets_step (step : CriteriaStep) :
    (criteria.step step).sets = criteria.sets ++ step.sets := by
  cases step with
  | text words => exact (List.append_nil _).symm
  | set field values operator => exact (criteria.set_adds field values operator).2.1
  | range field lower upper =>
    exact (criteria.range_adds field lower upper).2.1.trans (List.append_nil _).symm
  | givenSet criterion =>
    cases criterion with
    | none => exact (List.append_nil _).symm
    | some criterion => rfl
  | givenRange criterion => exact (List.append_nil _).symm

/-- A step adds its intervals behind those that are there. -/
theorem ranges_step (step : CriteriaStep) :
    (criteria.step step).ranges = criteria.ranges ++ step.ranges := by
  cases step with
  | text words => exact (List.append_nil _).symm
  | set field values operator =>
    exact (criteria.set_adds field values operator).2.2.trans (List.append_nil _).symm
  | range field lower upper => exact (criteria.range_adds field lower upper).2.2
  | givenSet criterion => cases criterion <;> exact (List.append_nil _).symm
  | givenRange criterion => rfl

/-- A step that sets no free text keeps the one that is there. -/
theorem text_step {step : CriteriaStep} (silent : step.IsSilent) :
    (criteria.step step).text = criteria.text := by
  cases step with
  | text words => exact silent.elim
  | set field values operator => exact (criteria.set_adds field values operator).1
  | range field lower upper => exact (criteria.range_adds field lower upper).1
  | givenSet criterion => cases criterion <;> rfl
  | givenRange criterion => rfl

/-- The sets after some steps are those that were there and those that each step adds. -/
theorem sets_foldl_step (steps : List CriteriaStep) :
    (steps.foldl step criteria).sets = criteria.sets ++ steps.flatMap CriteriaStep.sets := by
  induction steps generalizing criteria with
  | nil => exact (List.append_nil _).symm
  | cons first steps next =>
    rw [List.foldl_cons, next, sets_step, List.flatMap_cons, List.append_assoc]

/-- The intervals after some steps are those that were there and those that each step adds. -/
theorem ranges_foldl_step (steps : List CriteriaStep) :
    (steps.foldl step criteria).ranges =
      criteria.ranges ++ steps.flatMap CriteriaStep.ranges := by
  induction steps generalizing criteria with
  | nil => exact (List.append_nil _).symm
  | cons first steps next =>
    rw [List.foldl_cons, next, ranges_step, List.flatMap_cons, List.append_assoc]

/-- Steps that set no free text keep the one that is there. -/
theorem text_foldl_step {steps : List CriteriaStep} (silent : ∀ step ∈ steps, step.IsSilent) :
    (steps.foldl step criteria).text = criteria.text := by
  induction steps generalizing criteria with
  | nil => rfl
  | cons first steps next =>
    rw [List.foldl_cons, next _ fun step inside => silent step (.tail _ inside),
      criteria.text_step (silent first (.head _))]

end Criteria

end FilmFinder
