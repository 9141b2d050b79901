import FilmFinder.Proofs.Query.Unambiguous
import Mathlib.Data.List.Forall2

/-!
# Criteria that are the same

Sameness of criteria looks at values, and both zeros have one value; a query shows the sign of a
zero. So criteria that are the same have a query or fail together, and their queries are one text
unless a zero is shown with different signs.
-/
namespace FilmFinder

/-- Two steps fail alike when neither fails, or both do with one error. -/
def FailAlike {ε α : Type} (left right : Except ε α) : Prop :=
  ∀ error, left = .error error ↔ right = .error error

namespace FailAlike

variable {ε α β : Type}

/-- A step fails like itself. -/
theorem refl (step : Except ε α) : FailAlike step step := fun _ => .rfl

/-- Steps that succeed fail alike, whatever their values. -/
theorem ok (left right : α) : FailAlike (.ok left : Except ε α) (.ok right) :=
  fun _ => ⟨nofun, nofun⟩

/-- Chains fail alike when their first steps do, and their other steps do on the values of those. -/
theorem bind {left right : Except ε α} {leftNext rightNext : α → Except ε β}
    (first : FailAlike left right)
    (next : ∀ leftValue rightValue, left = .ok leftValue → right = .ok rightValue →
      FailAlike (leftNext leftValue) (rightNext rightValue)) :
    FailAlike (left >>= leftNext) (right >>= rightNext) := by
  cases left with
  | error error =>
    rw [(first error).mp rfl]
    exact refl _
  | ok leftValue =>
    cases right with
    | error error => exact absurd ((first error).mpr rfl) nofun
    | ok rightValue => exact next leftValue rightValue rfl rfl

/-- Lists of steps fail alike when the steps do, one by one. -/
theorem mapM {γ : Type} {step : γ → Except ε α} {lefts rights : List γ}
    (paired : List.Forall₂ (fun left right => FailAlike (step left) (step right)) lefts rights) :
    FailAlike (lefts.mapM step) (rights.mapM step) := by
  induction paired with
  | nil => exact refl _
  | cons first rest others =>
    rw [List.mapM_cons, List.mapM_cons]
    exact first.bind fun _ _ _ _ => others.bind fun _ _ _ _ => ok _ _

end FailAlike

namespace Binary64.Finite

/-- Numbers have one value when they are as many signed units. -/
theorem sameValue_iff {left right : Finite} :
    left.sameValue right = true ↔ left.signedUnits = right.signedUnits := beq_iff_eq

/-- Numbers of one value and one sign are equal. -/
theorem eq_of_sameValue {left right : Finite} (same : left.sameValue right = true)
    (signs : left.negative = right.negative) : left = right := by
  rw [sameValue_iff] at same
  unfold signedUnits at same
  rw [signs] at same
  refine eq_of_units_eq signs ?_
  split at same <;> omega

/-- Numbers of one value are equal, or both are zero. -/
theorem eq_or_zero_of_sameValue {left right : Finite} (same : left.sameValue right = true) :
    left = right ∨ left.units = 0 ∧ right.units = 0 := by
  by_cases signs : left.negative = right.negative
  · exact .inl (eq_of_sameValue same signs)
  · refine .inr ?_
    rw [sameValue_iff] at same
    unfold signedUnits at same
    cases leftSign : left.negative <;> cases rightSign : right.negative <;>
      simp [leftSign, rightSign] at same signs <;> omega

end Binary64.Finite

open Binary64 (Finite)

namespace RangeShape

/-- The bounds that a query shows of an interval. -/
def shown : RangeShape → List Finite
  | .exact value => [value]
  | .upperOnly upper => [upper]
  | .lowerOnly lower => [lower]
  | .bounded lower upper => [lower, upper]
  | .absent => []

/-- Two intervals ask for the same in the same way: the bounds of one value each. -/
inductive Alike : RangeShape → RangeShape → Prop
  /-- One value. -/
  | exact {left right : Finite} (value : left.sameValue right = true) :
    Alike (.exact left) (.exact right)
  /-- An upper bound. -/
  | upperOnly {left right : Finite} (upper : left.sameValue right = true) :
    Alike (.upperOnly left) (.upperOnly right)
  /-- A lower bound. -/
  | lowerOnly {left right : Finite} (lower : left.sameValue right = true) :
    Alike (.lowerOnly left) (.lowerOnly right)
  /-- Two bounds. -/
  | bounded {left right leftUpper rightUpper : Finite} (lower : left.sameValue right = true)
    (upper : leftUpper.sameValue rightUpper = true) :
    Alike (.bounded left leftUpper) (.bounded right rightUpper)
  /-- Nothing. -/
  | absent : Alike .absent .absent

/-- The signs that a query shows of the bounds of an interval. -/
def signs (shape : RangeShape) : List Bool := shape.shown.map Finite.negative

/-- Intervals that ask for the same are equal when their bounds are shown with the same signs. -/
theorem Alike.eq_iff {left right : RangeShape} (alike : Alike left right) :
    left = right ↔ left.signs = right.signs := by
  refine ⟨congrArg signs, fun shownAlike => ?_⟩
  cases alike with
  | exact value =>
    rw [Finite.eq_of_sameValue value (List.cons.inj shownAlike).1]
  | upperOnly upper =>
    rw [Finite.eq_of_sameValue upper (List.cons.inj shownAlike).1]
  | lowerOnly lower =>
    rw [Finite.eq_of_sameValue lower (List.cons.inj shownAlike).1]
  | bounded lower upper =>
    obtain ⟨first, rest⟩ := List.cons.inj shownAlike
    rw [Finite.eq_of_sameValue lower first, Finite.eq_of_sameValue upper (List.cons.inj rest).1]
  | absent => rfl

/-- Of intervals that ask for the same, either both ask for nothing or neither does. -/
theorem Alike.absent_iff {left right : RangeShape} (alike : Alike left right) :
    left = .absent ↔ right = .absent := by
  cases alike <;> simp

/-- No zero is shown with a minus sign. -/
def PlainZeros (shape : RangeShape) : Prop :=
  ∀ bound ∈ shape.shown, bound.units = 0 → bound.negative = false

/-- Numbers of one value have one sign, if no zero among them has a minus sign. -/
theorem sign_eq_of_sameValue {left right : Finite} (same : left.sameValue right = true)
    (leftPlain : left.units = 0 → left.negative = false)
    (rightPlain : right.units = 0 → right.negative = false) : left.negative = right.negative := by
  rcases Finite.eq_or_zero_of_sameValue same with equal | ⟨leftZero, rightZero⟩
  · rw [equal]
  · rw [leftPlain leftZero, rightPlain rightZero]

/-- Intervals that ask for the same show the same signs, if no zero has a minus sign. -/
theorem Alike.signs_eq {left right : RangeShape} (alike : Alike left right)
    (leftPlain : left.PlainZeros) (rightPlain : right.PlainZeros) : left.signs = right.signs := by
  unfold PlainZeros at leftPlain rightPlain
  cases alike with
  | exact value | upperOnly value | lowerOnly value =>
    have sign := sign_eq_of_sameValue value (leftPlain _ (.head _)) (rightPlain _ (.head _))
    exact congrArg (fun negative => [negative]) sign
  | bounded lower upper =>
    have lowerSign := sign_eq_of_sameValue lower (leftPlain _ (.head _)) (rightPlain _ (.head _))
    have upperSign := sign_eq_of_sameValue upper (leftPlain _ (.tail _ (.head _)))
      (rightPlain _ (.tail _ (.head _)))
    exact congrArg₂ (fun first second => [first, second]) lowerSign upperSign
  | absent => rfl

end RangeShape

namespace RangeCriterion

/-- Bounds that are the same are both missing or have one value. -/
theorem missing_or_sameValue {left right : Option Finite} (same : sameBound left right = true) :
    left = none ∧ right = none ∨
      ∃ lower upper, left = some lower ∧ right = some upper ∧ lower.sameValue upper = true := by
  cases left with
  | none =>
    cases right with
    | none => exact .inl ⟨rfl, rfl⟩
    | some upper => contradiction
  | some lower =>
    cases right with
    | none => contradiction
    | some upper => exact .inr ⟨lower, upper, rfl, rfl, same⟩

/-- Intervals that are the same are on one field and ask for the same. -/
theorem alike_of_same {left right : RangeCriterion} (same : left.same right = true) :
    left.field = right.field ∧ left.shape.Alike right.shape := by
  unfold RangeCriterion.same at same
  rw [Bool.and_eq_true, Bool.and_eq_true, beq_iff_eq] at same
  obtain ⟨⟨fields, lowers⟩, uppers⟩ := same
  refine ⟨fields, ?_⟩
  unfold shape
  rcases missing_or_sameValue lowers with ⟨leftLower, rightLower⟩ | ⟨leftFrom, rightFrom, leftLower,
    rightLower, lower⟩ <;>
  rcases missing_or_sameValue uppers with ⟨leftUpper, rightUpper⟩ | ⟨leftTo, rightTo, leftUpper,
    rightUpper, upper⟩ <;>
  rw [leftLower, rightLower, leftUpper, rightUpper]
  · exact .absent
  · exact .upperOnly upper
  · exact .lowerOnly lower
  · -- Equality of the two bounds is kept by exchanging either for one of its value.
    have single : leftFrom.sameValue leftTo = rightFrom.sameValue rightTo := by
      rw [Bool.eq_iff_iff, Finite.sameValue_iff, Finite.sameValue_iff,
        Finite.sameValue_iff.mp lower, Finite.sameValue_iff.mp upper]
    dsimp only
    rw [single]
    split
    · exact .exact lower
    · exact .bounded lower upper

/-- The texts of the clauses of an interval over a table. -/
def texts (table : FieldTable) (criterion : RangeCriterion) : List (List Char) :=
  criterion.demands.map fun demand => (demand.clause table).characters

/-- An interval that asks for something has one text, and another interval has none. -/
theorem texts_eq (table : FieldTable) (criterion : RangeCriterion) :
    criterion.texts table = if criterion.shape = .absent then [] else
      [(Clause.range criterion.field criterion.shape).characters] := by
  unfold texts demands
  split <;> rfl

end RangeCriterion

namespace Text

/-- Of two texts, none is the beginning of another in a way that what follows could make up for. -/
def Settled (left right : List Char) : Prop :=
  ∀ leftRest rightRest, left ++ leftRest = right ++ rightRest → left = right

/-- Texts are equal when they are joined to one text and each pair of them is settled. -/
theorem eq_of_intercalate_eq (separator : Char) {lefts rights : List (List Char)}
    (settled : List.Forall₂ Settled lefts rights)
    (same : [separator].intercalate lefts = [separator].intercalate rights) : lefts = rights := by
  induction settled with
  | nil => rfl
  | @cons left right lefts rights first rest step =>
    cases rest with
    | nil =>
      rw [List.intercalate_singleton, List.intercalate_singleton] at same
      rw [same]
    | cons second rest =>
      simp only [List.intercalate_cons_cons, List.append_assoc] at same
      obtain rfl := first _ _ same
      rw [step (List.append_cancel_left (List.append_cancel_left same))]

end Text

/-- The clauses of two intervals on one field are settled. -/
theorem Clause.range_settled (field : String) {left right : RangeShape}
    (leftPresent : left ≠ .absent) (rightPresent : right ≠ .absent) {leftRest rightRest : List Char}
    (same : (Clause.range field left).characters ++ leftRest =
      (Clause.range field right).characters ++ rightRest) : left = right := by
  simp only [characters, bracketed, List.cons_append, List.append_assoc, List.nil_append,
    List.cons.injEq, true_and] at same
  have bodies := (List.cons.inj (List.cons.inj (List.append_cancel_left same)).2).2
  exact (shapeCharacters_split leftPresent rightPresent bodies).1

namespace RangeCriterion

variable (table : FieldTable) {left right : RangeCriterion} {lefts rights : List RangeCriterion}

/-- The texts of two intervals that are the same are settled, one by one. -/
theorem texts_settled (same : left.same right = true) :
    List.Forall₂ Text.Settled (left.texts table) (right.texts table) := by
  obtain ⟨fields, alike⟩ := alike_of_same same
  rw [texts_eq, texts_eq]
  by_cases absent : left.shape = .absent
  · rw [if_pos absent, if_pos (alike.absent_iff.mp absent)]
    exact .nil
  · have present : ¬ right.shape = .absent := fun none => absent (alike.absent_iff.mpr none)
    rw [if_neg absent, if_neg present, fields]
    refine .cons (fun leftRest rightRest joined => ?_) .nil
    rw [Clause.range_settled right.field absent present joined]

/-- Two intervals that are the same have the same texts exactly when they have the same shape. -/
theorem texts_eq_iff (same : left.same right = true) :
    left.texts table = right.texts table ↔ left.shape = right.shape := by
  obtain ⟨fields, alike⟩ := alike_of_same same
  rw [texts_eq, texts_eq, fields]
  constructor
  · intro texts
    by_cases absent : left.shape = .absent
    · rw [absent, alike.absent_iff.mp absent]
    · have present : ¬ right.shape = .absent := fun none => absent (alike.absent_iff.mpr none)
      rw [if_neg absent, if_neg present] at texts
      exact Clause.range_settled right.field absent present
        (congrArg (· ++ []) (List.cons.inj texts).1)
  · intro shapes
    rw [shapes]

/-- Lists of intervals that are the same one by one have the same texts exactly when they show the
same signs. -/
theorem flatMap_texts_eq_iff (same : List.Forall₂ (fun left right => left.same right = true)
    lefts rights) :
    lefts.flatMap (texts table) = rights.flatMap (texts table) ↔
      lefts.map (RangeShape.signs ∘ shape) = rights.map (RangeShape.signs ∘ shape) := by
  induction same with
  | nil => exact iff_of_true rfl rfl
  | @cons left right lefts rights first rest step =>
    have lengths : (left.texts table).length = (right.texts table).length :=
      (texts_settled table first).length_eq
    have heads : left.texts table = right.texts table ↔ left.shape.signs = right.shape.signs :=
      (texts_eq_iff table first).trans (alike_of_same first).2.eq_iff
    rw [List.flatMap_cons, List.flatMap_cons, List.map_cons, List.map_cons, List.cons_eq_cons]
    constructor
    · intro texts
      obtain ⟨front, back⟩ := List.append_inj texts lengths
      exact ⟨heads.mp front, step.mp back⟩
    · rintro ⟨front, back⟩
      rw [heads.mpr front, step.mpr back]

/-- Intervals on one field are refused alike. -/
theorem clauses?_failAlike (fields : left.field = right.field) :
    FailAlike (left.clauses? table) (right.clauses? table) := by
  unfold clauses?
  rw [fields]
  refine (FailAlike.refl _).bind fun field other found otherFound => ?_
  obtain rfl : field = other := Except.ok.inj (found.symm.trans otherFound)
  by_cases numeric : field.kind = .numeric
  · rw [if_pos numeric, if_pos numeric]
    exact .ok _ _
  · rw [if_neg numeric, if_neg numeric]
    exact .refl _

/-- Lists of intervals that are the same one by one show the same signs, if no zero has a minus
sign. -/
theorem signs_eq_of_plainZeros
    (same : List.Forall₂ (fun left right => left.same right = true) lefts rights)
    (leftPlain : ∀ criterion ∈ lefts, criterion.shape.PlainZeros)
    (rightPlain : ∀ criterion ∈ rights, criterion.shape.PlainZeros) :
    lefts.map (RangeShape.signs ∘ shape) = rights.map (RangeShape.signs ∘ shape) := by
  induction same with
  | nil => rfl
  | cons first rest step =>
    obtain ⟨leftFirst, leftRest⟩ := List.forall_mem_cons.mp leftPlain
    obtain ⟨rightFirst, rightRest⟩ := List.forall_mem_cons.mp rightPlain
    rw [List.map_cons, List.map_cons, step leftRest rightRest]
    exact congrArg (· :: _) ((alike_of_same first).2.signs_eq leftFirst rightFirst)

end RangeCriterion

namespace Criteria

variable {table : FieldTable} {left right : Criteria}

/-- Lists of intervals are the same when they are as long and the same one by one. -/
theorem forall₂_of_sameRanges {lefts rights : List RangeCriterion}
    (same : sameRanges lefts rights = true) :
    List.Forall₂ (fun left right => left.same right = true) lefts rights := by
  fun_induction sameRanges lefts rights with
  | case1 => exact .nil
  | case2 left lefts right rights step =>
    rw [Bool.and_eq_true] at same
    exact .cons same.1 (step same.2)
  | case3 lefts rights unequal lengths => contradiction

/-- Criteria that are the same have one text, the same sets, and intervals that are the same one by
one. -/
theorem parts_of_same (same : left.same right = true) :
    left.text = right.text ∧ left.sets = right.sets ∧
      List.Forall₂ (fun left right => left.same right = true) left.ranges right.ranges := by
  unfold Criteria.same at same
  rw [Bool.and_eq_true, Bool.and_eq_true, beq_iff_eq, beq_iff_eq] at same
  obtain ⟨⟨texts, sets⟩, ranges⟩ := same
  exact ⟨texts, sets, forall₂_of_sameRanges ranges⟩

/-- The texts in front of the intervals: the free text and the clauses of the sets. -/
def leadTexts (table : FieldTable) (criteria : Criteria) : List (List Char) :=
  criteria.text.toList.map String.toList ++
    (criteria.sets.flatMap SetCriterion.demands).map fun demand => (demand.clause table).characters

/-- A query is joined from the texts in front of the intervals and those of the intervals. -/
theorem query_eq_texts {criteria : Criteria} {query : String}
    (done : criteria.query? table = .ok query) :
    query = String.ofList ([' '].intercalate
      (criteria.leadTexts table ++ criteria.ranges.flatMap (RangeCriterion.texts table))) := by
  obtain ⟨clauses, clausesDone, done⟩ := exists_of_bind_eq_ok done
  obtain rfl := Except.ok.inj done
  obtain ⟨rfl, -⟩ := clauses_eq clausesDone
  have texts : (criteria.demands.map (Demand.clause table)).map Clause.characters =
      (criteria.sets.flatMap SetCriterion.demands).map
          (fun demand => (demand.clause table).characters) ++
        criteria.ranges.flatMap (RangeCriterion.texts table) := by
    rw [List.map_map, demands, List.map_append]
    exact congrArg (_ ++ ·) List.map_flatMap
  unfold queryCharacters leadTexts
  rw [texts, List.append_assoc]

/-- The signs that criteria show of the bounds of each interval. -/
def shownSigns (criteria : Criteria) : List (List Bool) :=
  criteria.ranges.map (RangeShape.signs ∘ RangeCriterion.shape)

/-- Queries of criteria that are the same are one text exactly when they show the same signs. -/
theorem query_eq_iff_of_same (same : left.same right = true) {leftQuery rightQuery : String}
    (leftDone : left.query? table = .ok leftQuery)
    (rightDone : right.query? table = .ok rightQuery) :
    leftQuery = rightQuery ↔ left.shownSigns = right.shownSigns := by
  obtain ⟨texts, sets, ranges⟩ := parts_of_same same
  have leads : left.leadTexts table = right.leadTexts table := by
    unfold leadTexts
    rw [texts, sets]
  have signs := RangeCriterion.flatMap_texts_eq_iff table ranges
  rw [query_eq_texts leftDone, query_eq_texts rightDone, leads, shownSigns, shownSigns, ← signs]
  constructor
  · intro joined
    have front : List.Forall₂ Text.Settled (right.leadTexts table) (right.leadTexts table) :=
      List.forall₂_same.mpr fun _ _ _ _ _ => rfl
    have back : List.Forall₂ Text.Settled (left.ranges.flatMap (RangeCriterion.texts table))
        (right.ranges.flatMap (RangeCriterion.texts table)) :=
      List.rel_flatMap ranges fun _ _ same => RangeCriterion.texts_settled table same
    have parts := Text.eq_of_intercalate_eq ' ' (List.rel_append front back)
      (String.ofList_injective joined)
    exact List.append_cancel_left parts
  · intro rangeTexts
    rw [rangeTexts]

/-- Criteria that are the same fail alike. -/
theorem query?_failAlike (same : left.same right = true) :
    FailAlike (left.query? table) (right.query? table) := by
  obtain ⟨texts, sets, ranges⟩ := parts_of_same same
  have rangesAlike : FailAlike (left.ranges.mapM (RangeCriterion.clauses? table))
      (right.ranges.mapM (RangeCriterion.clauses? table)) :=
    .mapM (ranges.imp fun _ _ same =>
      RangeCriterion.clauses?_failAlike table (RangeCriterion.alike_of_same same).1)
  have clausesAlike : FailAlike (left.clauses? table) (right.clauses? table) := by
    unfold clauses?
    rw [sets]
    exact (FailAlike.refl _).bind fun _ _ _ _ => rangesAlike.bind fun _ _ _ _ => .ok _ _
  unfold query?
  exact clausesAlike.bind fun _ _ _ _ => .ok _ _

/-- No interval of criteria shows a zero with a minus sign. -/
def PlainZeros (criteria : Criteria) : Prop :=
  ∀ criterion ∈ criteria.ranges, criterion.shape.PlainZeros

/-- Criteria that are the same compile alike up to the sign of a zero: one has a query exactly when
the other has, they fail with the same error, and their queries are one text exactly when each
interval shows its bounds with the same signs. They do when no zero has a minus sign. -/
theorem query?_of_same (table : FieldTable) (left right : Criteria)
    (same : left.same right = true) :
    (∀ error, left.query? table = .error error ↔ right.query? table = .error error) ∧
      (∀ leftQuery rightQuery, left.query? table = .ok leftQuery →
        right.query? table = .ok rightQuery →
          (leftQuery = rightQuery ↔ left.shownSigns = right.shownSigns)) ∧
      (left.PlainZeros → right.PlainZeros → left.query? table = right.query? table) := by
  have alike : FailAlike (left.query? table) (right.query? table) := query?_failAlike same
  refine ⟨alike, fun _ _ => query_eq_iff_of_same same, fun leftPlain rightPlain => ?_⟩
  have signs : left.shownSigns = right.shownSigns :=
    RangeCriterion.signs_eq_of_plainZeros (parts_of_same same).2.2 leftPlain rightPlain
  cases leftDone : left.query? table with
  | error error => exact ((alike error).mp leftDone).symm
  | ok leftQuery =>
    cases rightDone : right.query? table with
    | error error =>
      rw [(alike error).mpr rightDone] at leftDone
      contradiction
    | ok rightQuery => rw [(query_eq_iff_of_same same leftDone rightDone).mpr signs]

/-- Criteria with a bound of `-0` are the same as criteria with `0` there, and their queries differ
in the clause of that bound. -/
theorem query?_of_same_zeros :
    let left := (Criteria.empty.range "year" (some (.finite (.zero true))) none).range "rating"
      (some (.finite (.zero false))) (some (.ofNat 7))
    let right := (Criteria.empty.range "year" (some (.finite (.zero false))) none).range "rating"
      (some (.finite (.zero false))) (some (.ofNat 7))
    left.same right = true ∧
      ("@year:[-0 inf] @rating:[7 0]" = "@year:[0 inf] @rating:[7 0]" ↔
        left.shownSigns = right.shownSigns) := by
  intro left right
  have same : left.same right = true := by decide +kernel
  have leftDone : left.query? FieldTable.films = .ok "@year:[-0 inf] @rating:[7 0]" :=
    eq_ok_of_toOption_eq_some (by decide +kernel)
  have rightDone : right.query? FieldTable.films = .ok "@year:[0 inf] @rating:[7 0]" :=
    eq_ok_of_toOption_eq_some (by decide +kernel)
  obtain ⟨-, compared, -⟩ := query?_of_same FieldTable.films left right same
  exact ⟨same, compared _ _ leftDone rightDone⟩

/-- Criteria that ask for a year from `-0` on and from `0` on are the same and have two queries. -/
theorem not_all_same_compile_alike :
    let left := Criteria.empty.range "year" (some (.finite (.zero true))) none
    let right := Criteria.empty.range "year" (some (.finite (.zero false))) none
    left.same right = true ∧ left.query? FieldTable.films = .ok "@year:[-0 inf]" ∧
      right.query? FieldTable.films = .ok "@year:[0 inf]" ∧
      left.query? FieldTable.films ≠ right.query? FieldTable.films := by
  intro left right
  have leftDone : left.query? FieldTable.films = .ok "@year:[-0 inf]" :=
    eq_ok_of_toOption_eq_some (by decide +kernel)
  have rightDone : right.query? FieldTable.films = .ok "@year:[0 inf]" :=
    eq_ok_of_toOption_eq_some (by decide +kernel)
  refine ⟨by decide +kernel, leftDone, rightDone, ?_⟩
  rw [leftDone, rightDone]
  exact fun equal => absurd (Except.ok.inj equal) (by decide)

end Criteria

end FilmFinder
