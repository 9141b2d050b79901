import FilmFinder.Proofs.Query.Composition

/-!
# Clean queries

A clause starts with the sign of a field name or a minus and ends with a bracket, and a free text is
trimmed. So a query has no blank at either end. It is empty only when nothing is asked for, and only
then a query that matches every film is sent in its place.
-/
namespace FilmFinder

namespace Clause

/-- A field and what is asked of it start with a sign that is not blank and end with a bracket. -/
theorem bracketed_eq (field : String) (kind : FieldKind) (body : List Char) :
    bracketed field kind body =
      '@' :: (field.toList ++ ':' :: kind.opening :: body) ++ [kind.closing] := by
  simp [bracketed]

/-- No bracket is blank. -/
theorem closing_solid (kind : FieldKind) : Text.isBlank kind.closing = false := by
  cases kind <;> decide

/-- The text of a clause is flush. -/
theorem flush_characters (clause : Clause) : Text.Flush (.ofList clause.characters) := by
  cases clause with
  | set negated field kind values =>
    rw [characters, bracketed_eq]
    cases negated with
    | true => exact Text.flush_of_ends _ (by decide) (closing_solid kind)
    | false => exact Text.flush_of_ends _ (by decide) (closing_solid kind)
  | range field shape =>
    rw [characters, bracketed_eq]
    exact Text.flush_of_ends _ (by decide) (closing_solid .numeric)

/-- A clause shows where the name of its field starts. -/
theorem at_mem_characters (clause : Clause) : '@' ∈ clause.characters := by
  cases clause <;> simp [characters, bracketed]

end Clause

namespace Condition

variable {table : FieldTable} {condition : Condition}

/-- The text of a clause of a condition is flush. -/
theorem flush_of_mem_texts {part : String} (inside : part ∈ condition.texts table) :
    Text.Flush part := by
  obtain ⟨demand, -, rfl⟩ := List.mem_map.mp inside
  exact (demand.clause table).flush_characters

/-- The text of a clause of a condition shows where a name starts. -/
theorem at_mem_of_mem_texts {part : String} (inside : part ∈ condition.texts table) :
    '@' ∈ part.toList := by
  obtain ⟨demand, -, rfl⟩ := List.mem_map.mp inside
  rw [String.toList_ofList]
  exact (demand.clause table).at_mem_characters

/-- A set has a clause. -/
theorem texts_values_ne_nil (criterion : SetCriterion) : (values criterion).texts table ≠ [] := by
  intro none
  have demandless : criterion.demands = [] := List.map_eq_nil_iff.mp none
  unfold SetCriterion.demands at demandless
  split at demandless
  · contradiction
  · contradiction
  · exact criterion.nonempty (List.map_eq_nil_iff.mp demandless)

/-- An interval has no clause exactly when it has no bound. -/
theorem texts_interval_eq_nil_iff {criterion : RangeCriterion} :
    (interval criterion).texts table = [] ↔ criterion.shape = .absent := by
  rw [texts, List.map_eq_nil_iff]
  change criterion.demands = [] ↔ _
  unfold RangeCriterion.demands
  split <;> simpa

end Condition

namespace Criteria

/-- Nothing is asked of any field: there is no set, and no interval has a bound. -/
def Unconditional (criteria : Criteria) : Prop :=
  criteria.sets = [] ∧ ∀ criterion ∈ criteria.ranges, criterion.shape = .absent

/-- Nothing is asked for: there is no free text either. -/
def AsksNothing (criteria : Criteria) : Prop := criteria.text = none ∧ criteria.Unconditional

variable {table : FieldTable} {criteria : Criteria}

/-- The conditions have no clause exactly when nothing is asked of any field. -/
theorem clauseless_iff (table : FieldTable) :
    criteria.conditions.flatMap (Condition.texts table) = [] ↔ criteria.Unconditional := by
  rw [List.flatMap_eq_nil_iff, conditions, List.forall_mem_append, List.forall_mem_map,
    List.forall_mem_map, Unconditional]
  simp only [Condition.texts_interval_eq_nil_iff, Condition.texts_values_ne_nil]
  rw [List.eq_nil_iff_forall_not_mem]

/-- The texts that a query is joined from are flush. -/
theorem flush_of_mem_texts {part : String} (inside : part ∈ criteria.texts table) :
    Text.Flush part := by
  rcases List.mem_append.mp inside with words | inside
  · exact Text.trim_eq_self_iff.mp (criteria.clean part (Option.mem_toList.mp words)).2
  · obtain ⟨condition, -, inside⟩ := List.mem_flatMap.mp inside
    exact Condition.flush_of_mem_texts inside

/-- A query is joined from no text exactly when nothing is asked for. -/
theorem texts_eq_nil_iff : criteria.texts table = [] ↔ criteria.AsksNothing := by
  rw [texts, List.append_eq_nil_iff, Option.toList_eq_nil_iff, clauseless_iff, AsksNothing]

/-- A text without the sign in front of field names is a query exactly when it is the free text and
nothing is asked of any field. -/
theorem joined_eq_iff {words : String} (present : words ≠ "") (nameless : '@' ∉ words.toList) :
    " ".intercalate (criteria.texts table) = words ↔
      criteria.text = some words ∧ criteria.Unconditional := by
  rw [← clauseless_iff table]
  constructor
  · intro joined
    have clauseless : criteria.conditions.flatMap (Condition.texts table) = [] := by
      refine List.eq_nil_iff_forall_not_mem.mpr fun part inside => nameless ?_
      obtain ⟨condition, -, held⟩ := List.mem_flatMap.mp inside
      rw [← joined]
      exact Text.mem_intercalate (List.mem_append_right _ inside)
        (Condition.at_mem_of_mem_texts held)
    rw [texts, clauseless, List.append_nil] at joined
    refine ⟨?_, clauseless⟩
    cases known : criteria.text with
    | none =>
      rw [known] at joined
      exact absurd joined.symm present
    | some text =>
      rw [known] at joined
      exact congrArg some joined
  · rintro ⟨known, clauseless⟩
    rw [texts, clauseless, known]
    rfl

/-- Criteria are empty exactly when nothing is asked for and no interval was added, not even one
without a bound. -/
theorem isEmpty_iff :
    criteria.isEmpty = true ↔ criteria.AsksNothing ∧ criteria.ranges = [] := by
  unfold isEmpty AsksNothing Unconditional
  rw [Bool.and_eq_true, Bool.and_eq_true, Option.isNone_iff_eq_none, List.isEmpty_iff,
    List.isEmpty_iff]
  constructor
  · rintro ⟨⟨silent, setless⟩, rangeless⟩
    refine ⟨⟨silent, setless, ?_⟩, rangeless⟩
    rw [rangeless]
    exact nofun
  · rintro ⟨⟨silent, setless, -⟩, rangeless⟩
    exact ⟨⟨silent, setless⟩, rangeless⟩

/-- A query is clean: no blank stands at either end, whatever the steps that built the criteria. It
is empty exactly when nothing is asked for, which is less than that the criteria are empty:
intervals without a bound may have been added. Every film is asked for exactly then, or when the
free text says so and nothing is asked of any field; else the query is sent as it stands. -/
theorem query?_clean (table : FieldTable) (criteria : Criteria) (query : String)
    (done : criteria.query? table = .ok query) :
    Text.Flush query ∧
      (query = "" ↔ criteria.AsksNothing) ∧
      (criteria.isEmpty = true ↔ criteria.AsksNothing ∧ criteria.ranges = []) ∧
      (effectiveQuery query = "*" ↔
        criteria.AsksNothing ∨ criteria.text = some "*" ∧ criteria.Unconditional) ∧
      (¬ criteria.AsksNothing → effectiveQuery query = query) := by
  have admitted := exists_query?_iff.mp ⟨query, done⟩
  have joined : query = " ".intercalate (criteria.texts table) :=
    Except.ok.inj (done.symm.trans (query?_of_admitted admitted))
  have flush : Text.Flush query := by
    rw [joined]
    exact Text.flush_intercalate (fun _ => text_ne_empty) fun _ => flush_of_mem_texts
  have empty : query = "" ↔ criteria.AsksNothing := by
    rw [joined, Text.intercalate_eq_empty_iff fun _ => text_ne_empty, texts_eq_nil_iff]
  have kept : ¬ criteria.AsksNothing → effectiveQuery query = query := by
    intro asked
    rw [effectiveQuery, Text.trim_eq_self_iff.mpr flush, if_neg (mt empty.mp asked)]
  refine ⟨flush, empty, isEmpty_iff, ?_, kept⟩
  by_cases nothing : criteria.AsksNothing
  · have all : effectiveQuery query = "*" := by
      rw [empty.mpr nothing]
      rfl
    exact iff_of_true all (.inl nothing)
  · rw [kept nothing, or_iff_right nothing, joined]
    exact joined_eq_iff (by decide) (by decide)

/-- Blank words, a set of blank values and an interval whose one bound is no number ask for nothing
in criteria that are not empty, and so match every film. The lone free text that matches every film
is sent as it stands, and so is any query with a clause. -/
theorem query?_clean_blank :
    let silent := ofSteps [.text "\u00a0\n", .set "genre" [" ", "\u3000"] .none,
      .givenRange (.of "year" none (some .nan))]
    let lone := ofSteps [.text " *\t"]
    let asking := ofSteps [.text " *\t", .set "genre" ["Drama"] .any]
    (silent.query? FieldTable.films = .ok "" ∧ Text.Flush "" ∧ silent.AsksNothing ∧
      silent.isEmpty = false ∧ effectiveQuery "" = "*") ∧
      (lone.query? FieldTable.films = .ok "*" ∧ ¬ lone.AsksNothing ∧ lone.Unconditional ∧
        effectiveQuery "*" = "*") ∧
      asking.query? FieldTable.films = .ok "* @genre:\x7bDrama\x7d" ∧
        Text.Flush "* @genre:\x7bDrama\x7d" ∧ ¬ asking.AsksNothing ∧ ¬ asking.Unconditional ∧
        effectiveQuery "* @genre:\x7bDrama\x7d" = "* @genre:\x7bDrama\x7d" := by
  intro silent lone asking
  have silentDone : silent.query? FieldTable.films = .ok "" :=
    eq_ok_of_toOption_eq_some (by decide +kernel)
  have loneDone : lone.query? FieldTable.films = .ok "*" :=
    eq_ok_of_toOption_eq_some (by decide +kernel)
  have askingDone : asking.query? FieldTable.films = .ok "* @genre:\x7bDrama\x7d" :=
    eq_ok_of_toOption_eq_some (by decide +kernel)
  refine ⟨?_, ?_, ?_⟩
  · obtain ⟨flush, empty, -, all, -⟩ := query?_clean FieldTable.films silent "" silentDone
    have nothing : silent.AsksNothing := empty.mp rfl
    exact ⟨silentDone, flush, nothing, by decide +kernel, all.mpr (.inl nothing)⟩
  · obtain ⟨-, empty, -, all, -⟩ := query?_clean FieldTable.films lone "*" loneDone
    have asked : ¬ lone.AsksNothing := mt empty.mpr (by decide)
    have bare : lone.Unconditional := ⟨by decide +kernel, by decide +kernel⟩
    have words : lone.text = some "*" := by decide +kernel
    exact ⟨loneDone, asked, bare, all.mpr (.inr ⟨words, bare⟩)⟩
  · obtain ⟨flush, empty, -, -, kept⟩ := query?_clean FieldTable.films asking _ askingDone
    have asked : ¬ asking.AsksNothing := mt empty.mpr (by decide)
    have filled : asking.sets ≠ [] := by decide +kernel
    exact ⟨askingDone, flush, asked, fun bare => filled bare.1, kept asked⟩

end Criteria

end FilmFinder
