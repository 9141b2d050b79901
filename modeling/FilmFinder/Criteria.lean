import FilmFinder.Keyed
import FilmFinder.Number.Binary64
import FilmFinder.Text.Blank

/-!
# Search criteria

Criteria say which films are wanted: a free text, sets of values that a field has all, any or
none of, and intervals that a numeric field lies in. They are built step by step; each kind
of part keeps the order in which its parts were added. The values of a set are trimmed,
never blank, unique and in ascending order by code point, and every bound is finite.
-/
namespace FilmFinder

/-- How the values of a set are asked for. -/
inductive Operator where
  /-- All of the values. -/
  | all
  /-- Any of the values. -/
  | any
  /-- None of the values. -/
  | none
  deriving DecidableEq

namespace Operator

/-- The word for the operator. -/
def word : Operator → String
  | .all => "AND"
  | .any => "OR"
  | .none => "NOT"

/-- All operators. -/
def everyOperator : List Operator := [.all, .any, .none]

/-- A word as operators are compared: trimmed, with its ASCII letters in upper case. -/
def normalWord (text : String) : String :=
  String.ofList ((Text.trimmed text.toList).map Char.toUpper)

/-- The operator that a word names. -/
def ofWord? (text : String) : Option Operator :=
  everyOperator.find? fun operator => operator.word = normalWord text

/-- The message for a word that names no operator. -/
def unknownMessage (text : String) : String :=
  "unknown operator '" ++ normalWord text ++ "'"

/-- The operator of a request: all values, unless a word names another operator. -/
def ofRequest (text : Option String) : Operator := (text.bind ofWord?).getD .all

end Operator

/-- The values of a set, in ascending order. -/
abbrev ValueSet := Keyed String id

/-- A text is clean when it is not empty and has no blank at either end. -/
abbrev IsClean (text : String) : Prop := text ≠ "" ∧ Text.trim text = text

/-- The set of some values as they are typed: trimmed, without the blank ones. -/
def ValueSet.ofTyped (values : List String) : ValueSet :=
  Keyed.ofList ((values.map Text.trim).filter (· ≠ ""))

/-- Values that a field has all, any or none of. -/
structure SetCriterion where
  /-- The name of the field. -/
  field : String
  /-- How the values are asked for. -/
  operator : Operator
  /-- The values in ascending order. -/
  values : ValueSet
  /-- There is a value. -/
  nonempty : values.items ≠ []
  /-- Every value is trimmed and not blank. -/
  clean : ∀ value ∈ values.items, IsClean value
  deriving DecidableEq

/-- Placing clean values one after another leaves clean values. -/
theorem clean_foldl_insert (values : List String) (start : ValueSet)
    (clean : ∀ value ∈ values, IsClean value) (before : ∀ value ∈ start.items, IsClean value) :
    ∀ value ∈ (values.foldl Keyed.insert start).items, IsClean value := by
  induction values generalizing start with
  | nil => exact before
  | cons first rest step =>
    refine step (start.insert first) (fun value inside => clean value (.tail _ inside))
      fun value inside => ?_
    rcases mem_place inside with rfl | inside
    · exact clean _ (.head _)
    · exact before value inside

/-- The values of a typed set are clean. -/
theorem ValueSet.clean_ofTyped (values : List String) :
    ∀ value ∈ (ValueSet.ofTyped values).items, IsClean value := by
  refine clean_foldl_insert _ _ (fun value inside => ?_) (by simp [Keyed.empty])
  obtain ⟨inside, present⟩ := List.mem_filter.mp inside
  obtain ⟨typed, -, rfl⟩ := List.mem_map.mp inside
  exact ⟨by simpa using present, Text.trim_trim typed⟩

/-- The criterion for typed values; none when no value is left. -/
def SetCriterion.of? (field : String) (values : List String) (operator : Operator) :
    Option SetCriterion :=
  let kept := ValueSet.ofTyped values
  if nonempty : kept.items ≠ [] then
    some ⟨field, operator, kept, nonempty, ValueSet.clean_ofTyped values⟩
  else none

/-- An interval that a numeric field lies in. -/
structure RangeCriterion where
  /-- The name of the field. -/
  field : String
  /-- The lower bound, if there is one. -/
  lower : Option Binary64.Finite
  /-- The upper bound, if there is one. -/
  upper : Option Binary64.Finite
  deriving DecidableEq

/-- What an interval asks for. -/
inductive RangeShape where
  /-- One value: the bounds have the same value, and the lower one is shown. -/
  | exact (value : Binary64.Finite)
  /-- No more than a bound. -/
  | upperOnly (upper : Binary64.Finite)
  /-- No less than a bound. -/
  | lowerOnly (lower : Binary64.Finite)
  /-- Between two bounds. -/
  | bounded (lower upper : Binary64.Finite)
  /-- Nothing. -/
  | absent
  deriving DecidableEq

namespace RangeCriterion

/-- The interval between two numbers; a number that is not finite is no bound. -/
def of (field : String) (lower upper : Option Binary64) : RangeCriterion :=
  ⟨field, lower.bind Binary64.finite?, upper.bind Binary64.finite?⟩

/-- What the interval asks for. -/
def shape (criterion : RangeCriterion) : RangeShape :=
  match criterion.lower, criterion.upper with
  | some lower, some upper => if lower.sameValue upper then .exact lower else .bounded lower upper
  | some lower, none => .lowerOnly lower
  | none, some upper => .upperOnly upper
  | none, none => .absent

/-- Two bounds are the same when both are missing or have the same value. -/
def sameBound : Option Binary64.Finite → Option Binary64.Finite → Bool
  | none, none => true
  | some left, some right => left.sameValue right
  | _, _ => false

/-- Two intervals are the same when they name one field and have the same bounds. -/
def same (left right : RangeCriterion) : Bool :=
  left.field == right.field && sameBound left.lower right.lower && sameBound left.upper right.upper

end RangeCriterion

/-- What films are wanted. -/
structure Criteria where
  /-- The free text. -/
  text : Option String
  /-- The sets of values, in the order in which they were added. -/
  sets : List SetCriterion
  /-- The intervals, in the order in which they were added. -/
  ranges : List RangeCriterion
  /-- The free text is trimmed and not blank. -/
  clean : ∀ words ∈ text, IsClean words
  deriving DecidableEq

/-- One step of building criteria. -/
inductive CriteriaStep where
  /-- Set the free text. -/
  | text (words : String)
  /-- Add a set of typed values. -/
  | set (field : String) (values : List String) (operator : Operator)
  /-- Add an interval that has a bound. -/
  | range (field : String) (lower upper : Option Binary64)
  /-- Add a set that is already built, if it was. -/
  | givenSet (criterion : Option SetCriterion)
  /-- Add an interval that is already built, with or without bounds. -/
  | givenRange (criterion : RangeCriterion)

namespace Criteria

/-- Criteria that ask for nothing. -/
def empty : Criteria := ⟨none, [], [], by simp⟩

/-- Nothing is asked for and no interval was added. -/
def isEmpty (criteria : Criteria) : Bool :=
  criteria.text.isNone && criteria.sets.isEmpty && criteria.ranges.isEmpty

/-- The free text of some typed words: trimmed, and none when they are blank. -/
def textOf (words : String) : Option String :=
  if Text.trim words = "" then none else some (Text.trim words)

/-- The free text of typed words is clean. -/
theorem clean_textOf (words : String) : ∀ kept ∈ textOf words, IsClean kept := by
  intro kept inside
  unfold textOf at inside
  split at inside
  · simp at inside
  · next present =>
    obtain rfl : Text.trim words = kept := by simpa using inside
    exact ⟨present, Text.trim_trim words⟩

/-- Set the free text; blank words clear it. -/
def withText (criteria : Criteria) (words : String) : Criteria :=
  { criteria with text := textOf words, clean := clean_textOf words }

/-- The free text that is set is the trimmed words. -/
@[simp] theorem text_withText (criteria : Criteria) (words : String) :
    (criteria.withText words).text = textOf words := rfl

/-- Add a set that is already built. -/
def withSet (criteria : Criteria) (criterion : SetCriterion) : Criteria :=
  { criteria with sets := criteria.sets ++ [criterion] }

/-- Add an interval that is already built. -/
def withRange (criteria : Criteria) (criterion : RangeCriterion) : Criteria :=
  { criteria with ranges := criteria.ranges ++ [criterion] }

/-- Add a set of typed values, unless none is left. -/
def set (criteria : Criteria) (field : String) (values : List String) (operator : Operator) :
    Criteria :=
  match SetCriterion.of? field values operator with
  | some criterion => criteria.withSet criterion
  | none => criteria

/-- Add an interval, unless it has no bound. -/
def range (criteria : Criteria) (field : String) (lower upper : Option Binary64) : Criteria :=
  let criterion := RangeCriterion.of field lower upper
  if criterion.shape = .absent then criteria else criteria.withRange criterion

/-- Take one step. -/
def step (criteria : Criteria) : CriteriaStep → Criteria
  | .text words => criteria.withText words
  | .set field values operator => criteria.set field values operator
  | .range field lower upper => criteria.range field lower upper
  | .givenSet (some criterion) => criteria.withSet criterion
  | .givenSet none => criteria
  | .givenRange criterion => criteria.withRange criterion

/-- The criteria that some steps build. -/
def ofSteps (steps : List CriteriaStep) : Criteria := steps.foldl step empty

/-- Lists of intervals are the same when they are, one by one. -/
def sameRanges : List RangeCriterion → List RangeCriterion → Bool
  | [], [] => true
  | left :: lefts, right :: rights => left.same right && sameRanges lefts rights
  | _, _ => false

/-- Two criteria are the same when their texts and sets are equal and their intervals the same. -/
def same (left right : Criteria) : Bool :=
  left.text == right.text && left.sets == right.sets && sameRanges left.ranges right.ranges

end Criteria

end FilmFinder
