import FilmFinder.Proofs.Criteria
import FilmFinder.Proofs.Keyed
import Mathlib.Data.List.Forall2

/-!
# Normal form of criteria

Whatever is typed, the criteria that some steps build have a normal form. The free text is the last
one typed, trimmed; each set holds the values typed for it, trimmed, none of them blank, each once
and in ascending order; and each interval has finite bounds only. Steps that build different parts
of criteria do not depend on each other, so only their order within a part matters.
-/
namespace FilmFinder

/-- The code points of a text. -/
def Text.codePoints (text : String) : List Nat := text.toList.map Char.toNat

/-- Texts are ordered as their code points are. -/
theorem Text.codePoints_lt_iff {left right : String} :
    codePoints left < codePoints right ↔ left < right := by
  rw [String.lt_iff, codePoints, codePoints]
  generalize left.toList = lefts
  generalize right.toList = rights
  induction lefts generalizing rights with
  | nil => cases rights <;> simp
  | cons first lefts step =>
    cases rights with
    | nil => simp
    | cons second rights =>
      have codes : first.toNat < second.toNat ↔ first < second := Iff.rfl
      have same : first.toNat = second.toNat ↔ first = second := Char.toNat_inj
      rw [List.map_cons, List.map_cons, List.cons_lt_cons_iff, List.cons_lt_cons_iff, step, codes,
        same]

namespace ValueSet

/-- A typed set holds exactly the values that are not blank, as trimming leaves them. -/
theorem mem_ofTyped_iff {value : String} {typed : List String} :
    value ∈ (ofTyped typed).items ↔ value ≠ "" ∧ ∃ entry ∈ typed, Text.trim entry = value := by
  have held : value ∈ (ofTyped typed).items.map id ↔
      value ∈ ((typed.map Text.trim).filter (· ≠ "")).map id := Keyed.mem_keys_ofList
  rw [List.map_id, List.map_id, List.mem_filter, List.mem_map] at held
  simpa [and_comm] using held

end ValueSet

namespace SetCriterion

/-- A set collects what is typed for a field and an operator: it is on that field, under that
operator, and holds the values left of the typed ones in normal form. -/
structure Collects (criterion : SetCriterion) (field : String) (typed : List String)
    (operator : Operator) : Prop where
  /-- It is on the field. -/
  field_eq : criterion.field = field
  /-- It is under the operator. -/
  operator_eq : criterion.operator = operator
  /-- It holds what trimming leaves of the typed values, without the blank ones. -/
  mem_iff : ∀ value, value ∈ criterion.values.items ↔
    value ≠ "" ∧ ∃ entry ∈ typed, Text.trim entry = value
  /-- It holds a value. -/
  filled : criterion.values.items ≠ []
  /-- Its values are trimmed. -/
  trimmed : ∀ value ∈ criterion.values.items, Text.trim value = value
  /-- No value is held twice. -/
  distinct : criterion.values.items.Nodup
  /-- The values ascend strictly by code point. -/
  ascending : criterion.values.items.Pairwise fun left right =>
    Text.codePoints left < Text.codePoints right

variable (field : String) {typed : List String} (operator : Operator)

/-- A set that typed values build collects them. -/
theorem collects_of_of? {criterion : SetCriterion}
    (built : of? field typed operator = some criterion) :
    criterion.Collects field typed operator := by
  unfold of? at built
  dsimp only at built
  split at built
  next filled =>
    obtain rfl := Option.some.inj built
    refine ⟨rfl, rfl, fun value => ValueSet.mem_ofTyped_iff, filled, fun value inside => ?_, ?_, ?_⟩
    · exact (ValueSet.clean_ofTyped typed value inside).2
    · simpa using (ValueSet.ofTyped typed).distinct_keys
    · exact (ValueSet.ofTyped typed).ascending.imp Text.codePoints_lt_iff.mpr
  · contradiction

/-- Values that are not all blank build a set, which collects them. -/
theorem exists_collects (present : ∃ entry ∈ typed, Text.trim entry ≠ "") :
    ∃ criterion, of? field typed operator = some criterion ∧
      criterion.Collects field typed operator := by
  obtain ⟨entry, inside, solid⟩ := present
  have held : Text.trim entry ∈ (ValueSet.ofTyped typed).items :=
    ValueSet.mem_ofTyped_iff.mpr ⟨solid, entry, inside, rfl⟩
  obtain ⟨criterion, built⟩ : ∃ criterion, of? field typed operator = some criterion :=
    ⟨_, dif_pos (List.ne_nil_of_mem held)⟩
  exact ⟨criterion, built, collects_of_of? field operator built⟩

end SetCriterion

namespace RangeCriterion

/-- A typed bound is one when it is a finite number. -/
def isBound : Option Binary64 → Bool
  | some (.finite _) => true
  | _ => false

/-- An interval spans what is typed for a field: it is on that field, and its bounds are the typed
numbers that are finite. -/
structure Spans (criterion : RangeCriterion) (field : String) (lower upper : Option Binary64) :
    Prop where
  /-- It is on the field. -/
  field_eq : criterion.field = field
  /-- Its lower bound is the lower number, if that is finite. -/
  lower_iff : ∀ bound, criterion.lower = some bound ↔ lower = some (.finite bound)
  /-- Its upper bound is the upper number, if that is finite. -/
  upper_iff : ∀ bound, criterion.upper = some bound ↔ upper = some (.finite bound)

/-- A number stays a bound exactly when it is finite. -/
theorem bind_finite?_eq_some_iff {typed : Option Binary64} {bound : Binary64.Finite} :
    typed.bind Binary64.finite? = some bound ↔ typed = some (.finite bound) := by
  rcases typed with _ | (_ | _ | _) <;> simp [Binary64.finite?]

/-- An interval between typed numbers spans them. -/
theorem spans_of (field : String) (lower upper : Option Binary64) :
    (of field lower upper).Spans field lower upper :=
  ⟨rfl, fun _ => bind_finite?_eq_some_iff, fun _ => bind_finite?_eq_some_iff⟩

/-- An interval between typed numbers asks for nothing exactly when neither is a bound. -/
theorem shape_of_eq_absent_iff {field : String} {lower upper : Option Binary64} :
    (of field lower upper).shape = .absent ↔ (isBound lower || isBound upper) = false := by
  rcases lower with _ | (_ | _ | lower) <;> rcases upper with _ | (_ | _ | upper) <;>
    simp [of, shape, isBound, Binary64.finite?]
  split <;> simp

/-- An interval is the same as itself. -/
theorem same_self (criterion : RangeCriterion) : criterion.same criterion = true := by
  have bound : ∀ held : Option Binary64.Finite, sameBound held held = true := by
    intro held
    cases held with
    | none => rfl
    | some value => exact beq_self_eq_true _
  simp [same, bound]

end RangeCriterion

/-- A part of criteria. -/
inductive CriteriaPart where
  /-- The free text. -/
  | text
  /-- The sets. -/
  | sets
  /-- The intervals. -/
  | ranges
  deriving DecidableEq

/-- A step of building criteria as it is typed: what is added ready-made was built from typed values
or numbers before. -/
inductive TypedStep where
  /-- Set the free text. -/
  | text (words : String)
  /-- Add a set of values. -/
  | set (field : String) (typed : List String) (operator : Operator)
  /-- Add the set that values built before, if they built one. -/
  | builtSet (field : String) (typed : List String) (operator : Operator)
  /-- Add an interval that has a bound. -/
  | range (field : String) (lower upper : Option Binary64)
  /-- Add the interval that numbers built before, with or without bounds. -/
  | builtRange (field : String) (lower upper : Option Binary64)
  deriving DecidableEq

namespace TypedStep

/-- The step that is taken. -/
def step : TypedStep → CriteriaStep
  | .text words => .text words
  | .set field typed operator => .set field typed operator
  | .builtSet field typed operator => .givenSet (SetCriterion.of? field typed operator)
  | .range field lower upper => .range field lower upper
  | .builtRange field lower upper => .givenRange (RangeCriterion.of field lower upper)

/-- The part of criteria that a step builds. -/
def part : TypedStep → CriteriaPart
  | .text _ => .text
  | .set .. | .builtSet .. => .sets
  | .range .. | .builtRange .. => .ranges

/-- The words that a step sets the free text to. -/
def words? : TypedStep → Option String
  | .text words => some words
  | _ => none

/-- A step asks for a set: it has values that are not all blank. -/
def asksSet : TypedStep → Bool
  | .set _ typed _ | .builtSet _ typed _ => typed.any fun entry => Text.trim entry ≠ ""
  | _ => false

/-- A step asks for an interval: one with a bound, or a ready-made one. -/
def asksRange : TypedStep → Bool
  | .range _ lower upper => RangeCriterion.isBound lower || RangeCriterion.isBound upper
  | .builtRange .. => true
  | _ => false

/-- A set collects what a step types. -/
inductive AddsSet : TypedStep → SetCriterion → Prop
  /-- The step types the values. -/
  | set {field : String} {typed : List String} {operator : Operator} {criterion : SetCriterion}
    (collects : criterion.Collects field typed operator) :
    AddsSet (.set field typed operator) criterion
  /-- The values built the set before. -/
  | builtSet {field : String} {typed : List String} {operator : Operator}
    {criterion : SetCriterion} (collects : criterion.Collects field typed operator) :
    AddsSet (.builtSet field typed operator) criterion

/-- An interval spans what a step types. -/
inductive AddsRange : TypedStep → RangeCriterion → Prop
  /-- The step types the numbers. -/
  | range {field : String} {lower upper : Option Binary64} {criterion : RangeCriterion}
    (spans : criterion.Spans field lower upper) : AddsRange (.range field lower upper) criterion
  /-- The numbers built the interval before. -/
  | builtRange {field : String} {lower upper : Option Binary64} {criterion : RangeCriterion}
    (spans : criterion.Spans field lower upper) :
    AddsRange (.builtRange field lower upper) criterion

variable {typedStep : TypedStep}

/-- A step without words sets no free text. -/
theorem isSilent (typedStep : TypedStep) (silent : typedStep.words? = none) :
    typedStep.step.IsSilent := by
  cases typedStep with
  | text => contradiction
  | set | builtSet | range | builtRange => trivial

/-- A step that asks for a set adds the one that collects what it types. -/
theorem sets_of_asksSet (asks : typedStep.asksSet = true) :
    ∃ criterion, typedStep.step.sets = [criterion] ∧ typedStep.AddsSet criterion := by
  cases typedStep with
  | text | range | builtRange => contradiction
  | set field typed operator =>
    obtain ⟨criterion, built, collects⟩ :=
      SetCriterion.exists_collects field operator (by simpa [asksSet] using asks)
    exact ⟨criterion, congrArg Option.toList built, .set collects⟩
  | builtSet field typed operator =>
    obtain ⟨criterion, built, collects⟩ :=
      SetCriterion.exists_collects field operator (by simpa [asksSet] using asks)
    exact ⟨criterion, congrArg Option.toList built, .builtSet collects⟩

/-- A step that asks for no set adds none. -/
theorem sets_of_not_asksSet (silent : typedStep.asksSet = false) : typedStep.step.sets = [] := by
  cases typedStep with
  | text | range | builtRange => rfl
  | set | builtSet =>
    refine congrArg Option.toList (SetCriterion.of?_of_blank ?_)
    simpa [asksSet] using silent

/-- A step that asks for an interval adds the one that spans what it types. -/
theorem ranges_of_asksRange (asks : typedStep.asksRange = true) :
    ∃ criterion, typedStep.step.ranges = [criterion] ∧ typedStep.AddsRange criterion := by
  cases typedStep with
  | text | set | builtSet => contradiction
  | range field lower upper =>
    have bounded : (RangeCriterion.of field lower upper).shape ≠ .absent := fun absent =>
      Bool.noConfusion (asks.symm.trans (RangeCriterion.shape_of_eq_absent_iff.mp absent))
    exact ⟨_, if_neg bounded, .range (RangeCriterion.spans_of ..)⟩
  | builtRange field lower upper => exact ⟨_, rfl, .builtRange (RangeCriterion.spans_of ..)⟩

/-- A step that asks for no interval adds none. -/
theorem ranges_of_not_asksRange (silent : typedStep.asksRange = false) :
    typedStep.step.ranges = [] := by
  cases typedStep with
  | text | set | builtSet => rfl
  | range field lower upper => exact if_pos (RangeCriterion.shape_of_eq_absent_iff.mpr silent)
  | builtRange => contradiction

end TypedStep

section Lists

variable {α β : Type} {adds : α → List β} {keeps : α → Bool}

/-- When every item that is kept adds one thing and every other item none, what a list adds matches
the kept items one by one. -/
theorem forall₂_filter_flatMap {Gives : α → β → Prop}
    (one : ∀ item, keeps item = true → ∃ given, adds item = [given] ∧ Gives item given)
    (none : ∀ item, keeps item = false → adds item = []) (items : List α) :
    List.Forall₂ Gives (items.filter keeps) (items.flatMap adds) := by
  induction items with
  | nil => exact .nil
  | cons item items step =>
    rw [List.flatMap_cons]
    cases kept : keeps item with
    | true =>
      obtain ⟨given, added, gives⟩ := one item kept
      rw [List.filter_cons_of_pos kept, added]
      exact .cons gives step
    | false =>
      rw [List.filter_cons_of_neg (by simp [kept]), none item kept]
      exact step

/-- Items that add nothing may be left out. -/
theorem flatMap_filter (none : ∀ item, keeps item = false → adds item = []) (items : List α) :
    (items.filter keeps).flatMap adds = items.flatMap adds := by
  induction items with
  | nil => rfl
  | cons item items step =>
    rw [List.flatMap_cons]
    cases kept : keeps item with
    | true => rw [List.filter_cons_of_pos kept, List.flatMap_cons, step]
    | false => rw [List.filter_cons_of_neg (by simp [kept]), none item kept, step, List.nil_append]

end Lists

namespace Criteria

/-- The criteria that typed steps build. -/
def ofTyped (steps : List TypedStep) : Criteria := ofSteps (steps.map TypedStep.step)

variable (steps : List TypedStep)

/-- Typed words give what trimming leaves of them, unless that is nothing. -/
theorem textOf_eq (words : String) : textOf words = (some (Text.trim words)).filter (· ≠ "") := by
  unfold textOf
  by_cases blank : Text.trim words = ""
  · rw [if_pos blank, blank, Option.filter_some, if_neg (by simp)]
  · rw [if_neg blank, Option.filter_some, if_pos (by simpa using blank)]

/-- Typed words set the free text. -/
theorem text_step_typed (criteria : Criteria) {typedStep : TypedStep} {words : String}
    (given : typedStep.words? = some words) :
    (criteria.step typedStep.step).text = textOf words := by
  cases typedStep with
  | text other =>
    obtain rfl := Option.some.inj given
    exact text_withText criteria _
  | set | builtSet | range | builtRange => contradiction

/-- The free text after some steps is that of the last step that sets one, or the one that was
there. -/
theorem text_foldl_typed (criteria : Criteria) :
    ((steps.map TypedStep.step).foldl step criteria).text =
      (steps.filterMap TypedStep.words?).getLast?.elim criteria.text textOf := by
  induction steps generalizing criteria with
  | nil => rfl
  | cons first steps next =>
    rw [List.map_cons, List.foldl_cons, next]
    cases given : first.words? with
    | none => rw [List.filterMap_cons_none given, criteria.text_step (first.isSilent given)]
    | some words =>
      rw [List.filterMap_cons_some given, List.getLast?_cons, criteria.text_step_typed given]
      cases (steps.filterMap TypedStep.words?).getLast? <;> simp

/-- The free text is what trimming leaves of the last words typed, unless that is nothing. -/
theorem text_ofTyped :
    (ofTyped steps).text =
      ((steps.filterMap TypedStep.words?).getLast?.map Text.trim).filter (· ≠ "") := by
  rw [ofTyped, ofSteps, text_foldl_typed]
  cases (steps.filterMap TypedStep.words?).getLast? with
  | none => rfl
  | some words => rw [Option.elim_some, Option.map_some, textOf_eq]

/-- The sets are those that the steps add. -/
theorem sets_ofTyped : (ofTyped steps).sets = steps.flatMap fun typed => typed.step.sets := by
  rw [ofTyped, ofSteps, sets_foldl_step, List.flatMap_map]
  exact List.nil_append _

/-- The intervals are those that the steps add. -/
theorem ranges_ofTyped :
    (ofTyped steps).ranges = steps.flatMap fun typed => typed.step.ranges := by
  rw [ofTyped, ofSteps, ranges_foldl_step, List.flatMap_map]
  exact List.nil_append _

/-- Criteria are the same as themselves. -/
theorem same_self (criteria : Criteria) : criteria.same criteria = true := by
  have ranges : ∀ ranges : List RangeCriterion, sameRanges ranges ranges = true := by
    intro ranges
    induction ranges with
    | nil => rfl
    | cons first ranges step => simp [sameRanges, first.same_self, step]
  simp [same, ranges]

/-- Criteria are equal when their texts, sets and intervals are. -/
theorem eq_of_parts {left right : Criteria} (text : left.text = right.text)
    (sets : left.sets = right.sets) (ranges : left.ranges = right.ranges) : left = right := by
  cases left
  cases right
  cases text
  cases sets
  cases ranges
  rfl

/-- Steps build equal criteria when those that build one part are the same, part by part. -/
theorem ofTyped_eq_of_parts {steps others : List TypedStep}
    (alike : ∀ part, steps.filter (·.part = part) = others.filter (·.part = part)) :
    ofTyped steps = ofTyped others := by
  -- Steps of another part add nothing to this one, so each part is built from its own steps alone.
  have words (steps : List TypedStep) :
      (steps.filter (·.part = .text)).filterMap TypedStep.words? =
        steps.filterMap TypedStep.words? := by
    rw [List.filterMap_filter]
    refine List.filterMap_congr fun typed _ => ?_
    cases typed <;> rfl
  have sets (steps : List TypedStep) :
      (steps.filter (·.part = .sets)).flatMap (fun typed => typed.step.sets) =
        steps.flatMap fun typed => typed.step.sets := by
    refine flatMap_filter (fun typed other => ?_) steps
    cases typed <;> first | rfl | contradiction
  have ranges (steps : List TypedStep) :
      (steps.filter (·.part = .ranges)).flatMap (fun typed => typed.step.ranges) =
        steps.flatMap fun typed => typed.step.ranges := by
    refine flatMap_filter (fun typed other => ?_) steps
    cases typed <;> first | rfl | contradiction
  refine eq_of_parts ?_ ?_ ?_
  · rw [text_ofTyped, text_ofTyped, ← words steps, alike, words others]
  · rw [sets_ofTyped, sets_ofTyped, ← sets steps, alike, sets others]
  · rw [ranges_ofTyped, ranges_ofTyped, ← ranges steps, alike, ranges others]

/-- Criteria built by any steps are in normal form, and only the order of steps that build the same
part matters. -/
theorem ofTyped_normal :
    (ofTyped steps).text =
        ((steps.filterMap TypedStep.words?).getLast?.map Text.trim).filter (· ≠ "") ∧
      List.Forall₂ TypedStep.AddsSet (steps.filter TypedStep.asksSet) (ofTyped steps).sets ∧
      List.Forall₂ TypedStep.AddsRange (steps.filter TypedStep.asksRange)
        (ofTyped steps).ranges ∧
      (ofTyped steps).same (ofTyped steps) = true ∧
      ∀ others : List TypedStep,
        (∀ part, steps.filter (·.part = part) = others.filter (·.part = part)) →
          ofTyped steps = ofTyped others := by
  refine ⟨text_ofTyped steps, ?_, ?_, same_self _, fun _ => ofTyped_eq_of_parts⟩
  · rw [sets_ofTyped]
    exact forall₂_filter_flatMap (fun _ => TypedStep.sets_of_asksSet)
      (fun _ => TypedStep.sets_of_not_asksSet) steps
  · rw [ranges_ofTyped]
    exact forall₂_filter_flatMap (fun _ => TypedStep.ranges_of_asksRange)
      (fun _ => TypedStep.ranges_of_not_asksRange) steps

/-- Two orders of the same steps: the last words typed are taken, a set of blank values and an
interval without a bound are left out, and a ready-made interval stays without one. -/
theorem ofTyped_normal_reordered :
    let words : List TypedStep := [.text "space", .text " \u00a0ring\n"]
    let sets : List TypedStep := [.set "genre" ["Drama ", "Action", "", "Drama"] .any,
      .builtSet "actors" [" ", "\u3000"] .none]
    let ranges : List TypedStep := [.range "year" (some .nan) none, .builtRange "votes" none none]
    ofTyped (words ++ sets ++ ranges) = ofTyped (ranges ++ sets ++ words) ∧
      (ofTyped (words ++ sets ++ ranges)).text = some "ring" ∧
      ((ofTyped (words ++ sets ++ ranges)).sets.map fun set => set.values.items) =
        [["Action", "Drama"]] ∧
      List.Forall₂ TypedStep.AddsRange [.builtRange "votes" none none]
        (ofTyped (words ++ sets ++ ranges)).ranges := by
  intro words sets ranges
  obtain ⟨text, -, spans, -, alike⟩ := ofTyped_normal (words ++ sets ++ ranges)
  refine ⟨alike (ranges ++ sets ++ words) fun part => ?_, ?_, by decide +kernel, spans⟩
  · cases part <;> decide +kernel
  · rw [text]
    decide +kernel

end Criteria

end FilmFinder
