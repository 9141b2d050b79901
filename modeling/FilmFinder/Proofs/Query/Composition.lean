import FilmFinder.Proofs.Chain
import FilmFinder.Proofs.Query.Unambiguous
import FilmFinder.Proofs.Text.Joined

/-!
# Queries part by part

Criteria are a free text and conditions on fields. Each condition is admitted or refused by the kind
of its own field alone; a query exists when all are admitted, it is the queries of the parts with a
space between them, and it fails as the first refused condition does, sets before intervals.
-/
namespace FilmFinder

/-- A condition that criteria set on a field. -/
inductive Condition where
  /-- The field has all, any or none of some values. -/
  | values (criterion : SetCriterion)
  /-- The field lies in an interval. -/
  | interval (criterion : RangeCriterion)

namespace Condition

/-- The name of the field that a condition is set on. -/
def field : Condition → String
  | .values criterion => criterion.field
  | .interval criterion => criterion.field

/-- A kind of field takes a condition: values are words or tags, and an interval is of numbers. -/
def TakenBy : Condition → FieldKind → Prop
  | .values _, kind => kind = .text ∨ kind = .tag
  | .interval _, kind => kind = .numeric

/-- The clauses of a condition over a field table. -/
def clauses? (table : FieldTable) : Condition → Except QueryError (List Clause)
  | .values criterion => criterion.clauses? table
  | .interval criterion => criterion.clauses? table

/-- What a condition demands. -/
def demands : Condition → List Demand
  | .values criterion => criterion.demands
  | .interval criterion => criterion.demands

/-- The criteria that set one condition and nothing else. -/
def alone : Condition → Criteria
  | .values criterion => Criteria.empty.withSet criterion
  | .interval criterion => Criteria.empty.withRange criterion

/-- A field table admits a condition: it knows the field under a kind that takes it. -/
def Admitted (table : FieldTable) (condition : Condition) : Prop :=
  ∃ field, table.find? condition.field = some field ∧ condition.TakenBy field.kind

/-- Why a field table does not admit a condition. -/
inductive Refused (table : FieldTable) (condition : Condition) : QueryError → Prop
  /-- The table does not know the field. -/
  | unknown (missing : table.find? condition.field = none) :
    Refused table condition (.unknownField condition.field)
  /-- The table knows the field under a kind that does not take the condition. -/
  | mismatch {field : Field} (found : table.find? condition.field = some field)
    (other : ¬ condition.TakenBy field.kind) :
    Refused table condition (.kindMismatch condition.field field.kind)

/-- The texts of the clauses of a condition over a table that admits it. -/
def texts (table : FieldTable) (condition : Condition) : List String :=
  condition.demands.map fun demand => String.ofList (demand.clause table).characters

variable {table : FieldTable} {condition : Condition}

/-- A condition is admitted, or there is a reason why not. -/
theorem admitted_or_refused (table : FieldTable) (condition : Condition) :
    condition.Admitted table ∨ ∃ error, condition.Refused table error := by
  cases found : table.find? condition.field with
  | none => exact .inr ⟨_, .unknown found⟩
  | some field =>
    by_cases taken : condition.TakenBy field.kind
    · exact .inl ⟨field, found, taken⟩
    · exact .inr ⟨_, .mismatch found taken⟩

/-- Values are taken by every kind but the numeric one. -/
theorem takenBy_values_iff {criterion : SetCriterion} {kind : FieldKind} :
    (values criterion).TakenBy kind ↔ kind ≠ .numeric := by
  cases kind <;> simp [TakenBy]

/-- A condition on a field that the table knows has clauses when its kind takes the condition, and
is refused for the kind when it does not. -/
theorem clauses?_of_found {field : Field} (found : table.find? condition.field = some field) :
    (condition.TakenBy field.kind → ∃ clauses, condition.clauses? table = .ok clauses) ∧
      (¬ condition.TakenBy field.kind →
        condition.clauses? table = .error (.kindMismatch condition.field field.kind)) := by
  have given : table.field? condition.field = .ok field := FieldTable.field?_eq_ok_iff.mpr found
  have named := (Keyed.key_of_find? found).1
  cases condition with
  | values criterion =>
    change table.field? criterion.field = _ at given
    simp only [takenBy_values_iff, clauses?, SetCriterion.clauses?, given]
    exact ⟨fun textual => ⟨_, if_neg textual⟩,
      fun numeric => (if_pos (Classical.not_not.mp numeric)).trans (by rw [named])⟩
  | interval criterion =>
    change table.field? criterion.field = _ at given
    simp only [TakenBy, clauses?, RangeCriterion.clauses?, given]
    exact ⟨fun numeric => ⟨_, if_pos numeric⟩,
      fun textual => (if_neg textual).trans (by rw [named])⟩

/-- An admitted condition has the clauses of its demands. -/
theorem clauses?_of_admitted (admitted : condition.Admitted table) :
    condition.clauses? table = .ok (condition.demands.map (Demand.clause table)) := by
  obtain ⟨field, found, taken⟩ := admitted
  obtain ⟨clauses, done⟩ := (clauses?_of_found found).1 taken
  have demanded : clauses = condition.demands.map (Demand.clause table) := by
    cases condition with
    | values criterion => exact (SetCriterion.clauses_eq done).1
    | interval criterion => exact (RangeCriterion.clauses_eq done).1
  rw [done, demanded]

/-- A refused condition has no clauses, for the reason why it is refused. -/
theorem clauses?_of_refused {error : QueryError} (refused : condition.Refused table error) :
    condition.clauses? table = .error error := by
  cases refused with
  | unknown missing =>
    have given : table.field? condition.field = .error (.unknownField condition.field) :=
      FieldTable.field?_of_none missing
    cases condition with
    | values criterion =>
      change table.field? criterion.field = _ at given
      simp only [clauses?, SetCriterion.clauses?, given]
      rfl
    | interval criterion =>
      change table.field? criterion.field = _ at given
      simp only [clauses?, RangeCriterion.clauses?, given]
      rfl
  | mismatch found other => exact (clauses?_of_found found).2 other

/-- No clause of a condition is empty. -/
theorem text_ne_empty {part : String} (inside : part ∈ condition.texts table) : part ≠ "" := by
  obtain ⟨demand, -, rfl⟩ := List.mem_map.mp inside
  intro empty
  exact demand.clause_characters_ne_nil (String.ofList_eq_empty_iff.mp empty)

/-- What a condition demands is asked of its own field. -/
theorem field_of_mem_demands {demand : Demand} (inside : demand ∈ condition.demands) :
    demand.field = condition.field := by
  cases condition with
  | values criterion =>
    change demand ∈ criterion.demands at inside
    unfold SetCriterion.demands at inside
    split at inside
    · obtain rfl := List.mem_singleton.mp inside
      rfl
    · obtain rfl := List.mem_singleton.mp inside
      rfl
    · obtain ⟨value, -, rfl⟩ := List.mem_map.mp inside
      rfl
  | interval criterion =>
    change demand ∈ criterion.demands at inside
    unfold RangeCriterion.demands at inside
    split at inside
    · contradiction
    · obtain rfl := List.mem_singleton.mp inside
      rfl

/-- Two tables agree on a condition when they know its field under one kind, or both do not know
it. -/
def Agree (left right : FieldTable) (condition : Condition) : Prop :=
  (left.find? condition.field).map Field.kind = (right.find? condition.field).map Field.kind

instance (left right : FieldTable) (condition : Condition) :
    Decidable (condition.Agree left right) := inferInstanceAs (Decidable (_ = _))

variable {left right : FieldTable}

/-- A table admits what another one admits that agrees with it. -/
theorem Admitted.of_agree (agree : condition.Agree left right)
    (admitted : condition.Admitted left) : condition.Admitted right := by
  obtain ⟨field, found, taken⟩ := admitted
  unfold Agree at agree
  rw [found, Option.map_some] at agree
  obtain ⟨other, otherFound, same⟩ := Option.map_eq_some_iff.mp agree.symm
  exact ⟨other, otherFound, same ▸ taken⟩

/-- A table refuses what another one refuses that agrees with it, for the same reason. -/
theorem Refused.of_agree (agree : condition.Agree left right) {error : QueryError}
    (refused : condition.Refused left error) : condition.Refused right error := by
  unfold Agree at agree
  cases refused with
  | unknown missing =>
    rw [missing, Option.map_none] at agree
    exact .unknown (Option.map_eq_none_iff.mp agree.symm)
  | mismatch found other =>
    rw [found, Option.map_some] at agree
    obtain ⟨field, rightFound, same⟩ := Option.map_eq_some_iff.mp agree.symm
    rw [← same] at other ⊢
    exact .mismatch rightFound other

/-- The clauses of a condition are written alike over tables that agree on it. -/
theorem texts_of_agree (agree : condition.Agree left right) :
    condition.texts left = condition.texts right := by
  refine List.map_congr_left fun demand inside => ?_
  have kinds : left.kindOf condition.field = right.kindOf condition.field := by
    unfold Agree at agree
    rw [FieldTable.kindOf, agree]
    rfl
  rw [← field_of_mem_demands inside] at kinds
  cases demand with
  | values negated name held =>
    change left.kindOf name = right.kindOf name at kinds
    rw [Demand.clause, Demand.clause, kinds]
  | interval name shape => rfl

end Condition

namespace Criteria

/-- The conditions that criteria set: those of the sets, then those of the intervals. -/
def conditions (criteria : Criteria) : List Condition :=
  criteria.sets.map .values ++ criteria.ranges.map .interval

/-- The criteria that hold the free text and nothing else. -/
def textAlone (criteria : Criteria) : Criteria := { criteria with sets := [], ranges := [] }

/-- Criteria taken apart: the free text, if there is one, and each condition. -/
def parts (criteria : Criteria) : List Criteria :=
  (if criteria.text.isSome then [criteria.textAlone] else []) ++
    criteria.conditions.map Condition.alone

/-- The texts that a query over a table that admits every condition is joined from. -/
def texts (table : FieldTable) (criteria : Criteria) : List String :=
  criteria.text.toList ++ criteria.conditions.flatMap (Condition.texts table)

variable {table : FieldTable} {criteria : Criteria}

/-- The clauses of criteria are those of their conditions. -/
theorem clauses?_eq (table : FieldTable) (criteria : Criteria) :
    criteria.clauses? table =
      (criteria.conditions.mapM (Condition.clauses? table)).map List.flatten := by
  unfold clauses? conditions
  rw [List.mapM_append, List.mapM_map, List.mapM_map]
  change (criteria.sets.mapM (SetCriterion.clauses? table) >>= _) =
    ((criteria.sets.mapM (SetCriterion.clauses? table)) >>= _).map _
  cases criteria.sets.mapM (SetCriterion.clauses? table) with
  | error error => rfl
  | ok sets =>
    change (criteria.ranges.mapM (RangeCriterion.clauses? table) >>= _) =
      ((criteria.ranges.mapM (RangeCriterion.clauses? table)) >>= _).map _
    cases criteria.ranges.mapM (RangeCriterion.clauses? table) with
    | error error => rfl
    | ok ranges => exact congrArg Except.ok List.flatten_append.symm

/-- Criteria whose conditions are all admitted have a query: their texts with a space between
them. -/
theorem query?_of_admitted
    (admitted : ∀ condition ∈ criteria.conditions, condition.Admitted table) :
    criteria.query? table = .ok (" ".intercalate (criteria.texts table)) := by
  have done : criteria.clauses? table = .ok
      (criteria.conditions.map fun condition =>
        condition.demands.map (Demand.clause table)).flatten := by
    rw [clauses?_eq, mapM_eq_ok fun condition inside =>
      Condition.clauses?_of_admitted (admitted condition inside)]
    rfl
  unfold query?
  rw [done]
  refine congrArg Except.ok (String.toList_injective ?_)
  rw [String.toList_intercalate, String.toList_ofList]
  refine congrArg (List.intercalate [' ']) ?_
  simp [texts, Condition.texts, List.flatMap_def, List.map_flatten, Function.comp_def]

/-- Criteria have no query when a condition is refused, for the reason why the first one is. -/
theorem query?_of_refused {earlier later : List Condition} {condition : Condition}
    {error : QueryError} (split : criteria.conditions = earlier ++ condition :: later)
    (admitted : ∀ other ∈ earlier, other.Admitted table)
    (refused : condition.Refused table error) : criteria.query? table = .error error := by
  unfold query?
  rw [clauses?_eq, split, mapM_eq_error
    (fun other inside => Condition.clauses?_of_admitted (admitted other inside))
    (Condition.clauses?_of_refused refused)]
  rfl

/-- Either all conditions are admitted, or one of them is the first that is refused. -/
theorem admitted_or_refused (table : FieldTable) (conditions : List Condition) :
    (∀ condition ∈ conditions, condition.Admitted table) ∨
      ∃ earlier condition later error, conditions = earlier ++ condition :: later ∧
        (∀ other ∈ earlier, other.Admitted table) ∧ condition.Refused table error := by
  induction conditions with
  | nil => exact .inl fun _ inside => nomatch inside
  | cons condition conditions step =>
    rcases condition.admitted_or_refused table with first | ⟨error, refused⟩
    · rcases step with all | ⟨earlier, other, later, error, rfl, before, refused⟩
      · exact .inl (List.forall_mem_cons.mpr ⟨first, all⟩)
      · exact .inr ⟨condition :: earlier, other, later, error, rfl,
          List.forall_mem_cons.mpr ⟨first, before⟩, refused⟩
    · exact .inr ⟨[], condition, conditions, error, rfl, nofun, refused⟩

/-- The texts of criteria are those of their parts. -/
theorem flatten_texts (table : FieldTable) (criteria : Criteria) :
    (criteria.parts.map (texts table)).flatten = criteria.texts table := by
  have alone (condition : Condition) : condition.alone.texts table = condition.texts table := by
    cases condition <;> simp [texts, Condition.alone, conditions, withSet, withRange, empty]
  have words : ((if criteria.text.isSome then [criteria.textAlone] else []).map
      (texts table)).flatten = criteria.text.toList := by
    cases known : criteria.text <;> simp [texts, textAlone, conditions, known]
  unfold parts
  rw [List.map_append, List.flatten_append, words, List.map_map, texts, List.flatMap_def]
  simp only [Function.comp_def, alone]

/-- No text that a query is joined from is empty. -/
theorem text_ne_empty {part : String} (inside : part ∈ criteria.texts table) : part ≠ "" := by
  rcases List.mem_append.mp inside with words | inside
  · exact (criteria.clean part (Option.mem_toList.mp words)).1
  · obtain ⟨condition, -, inside⟩ := List.mem_flatMap.mp inside
    exact Condition.text_ne_empty inside

/-- A condition of a part is one of the whole. -/
theorem condition_of_mem_parts {part : Criteria} (inside : part ∈ criteria.parts)
    {condition : Condition} (held : condition ∈ part.conditions) :
    condition ∈ criteria.conditions := by
  rcases List.mem_append.mp inside with words | inside
  · split at words
    · obtain rfl := List.mem_singleton.mp words
      contradiction
    · contradiction
  · obtain ⟨other, otherHeld, rfl⟩ := List.mem_map.mp inside
    have same : other.alone.conditions = [other] := by cases other <;> rfl
    rw [same] at held
    exact List.mem_singleton.mp held ▸ otherHeld

/-- Criteria have the same query, or fail alike, over tables that agree on every condition. -/
theorem query?_of_agree {left right : FieldTable}
    (agree : ∀ condition ∈ criteria.conditions, condition.Agree left right) :
    criteria.query? left = criteria.query? right := by
  rcases admitted_or_refused left criteria.conditions with
    all | ⟨earlier, condition, later, error, split, before, refused⟩
  · have same : criteria.texts left = criteria.texts right := by
      unfold texts
      rw [List.flatMap_def, List.flatMap_def, List.map_congr_left fun condition inside =>
        Condition.texts_of_agree (agree condition inside)]
    have allRight : ∀ condition ∈ criteria.conditions, condition.Admitted right :=
      fun condition inside => (all condition inside).of_agree (agree condition inside)
    rw [query?_of_admitted all, query?_of_admitted allRight, same]
  · have held : ∀ other ∈ earlier ++ [condition], other ∈ criteria.conditions := by
      intro other inside
      rw [split, List.append_cons]
      exact List.mem_append_left later inside
    have agreeFirst : condition.Agree left right := agree condition (held condition (by simp))
    rw [query?_of_refused split before refused, query?_of_refused split
      (fun other inside => (before other inside).of_agree
        (agree other (held other (List.mem_append_left _ inside))))
      (refused.of_agree agreeFirst)]

/-- The query of criteria is joined from the queries of their parts that are not empty. -/
theorem query_eq_of_parts (admitted : ∀ condition ∈ criteria.conditions, condition.Admitted table) :
    criteria.parts.mapM (query? table) =
        .ok (criteria.parts.map fun part => " ".intercalate (part.texts table)) ∧
      " ".intercalate (criteria.texts table) = " ".intercalate
        ((criteria.parts.map fun part => " ".intercalate (part.texts table)).filter (· ≠ "")) := by
  constructor
  · exact mapM_eq_ok fun part inside => query?_of_admitted fun condition held =>
      admitted condition (condition_of_mem_parts inside held)
  · have filled : ∀ group ∈ criteria.parts.map (texts table), ∀ part ∈ group, part ≠ "" := by
      intro group inside part partInside
      obtain ⟨whole, -, rfl⟩ := List.mem_map.mp inside
      exact text_ne_empty partInside
    have joined := Text.intercalate_flatten filled
    rw [flatten_texts, List.map_map] at joined
    exact joined

/-- Criteria have a query exactly when every condition is admitted. -/
theorem exists_query?_iff :
    (∃ query, criteria.query? table = .ok query) ↔
      ∀ condition ∈ criteria.conditions, condition.Admitted table := by
  constructor
  · rintro ⟨query, done⟩
    rcases admitted_or_refused table criteria.conditions with
      all | ⟨earlier, condition, later, error, split, before, refused⟩
    · exact all
    · rw [query?_of_refused split before refused] at done
      contradiction
  · exact fun all => ⟨_, query?_of_admitted all⟩

/-- Criteria fail exactly as their first refused condition does. -/
theorem query?_eq_error_iff {error : QueryError} :
    criteria.query? table = .error error ↔
      ∃ earlier condition later, criteria.conditions = earlier ++ condition :: later ∧
        (∀ other ∈ earlier, other.Admitted table) ∧ condition.Refused table error := by
  constructor
  · intro failed
    rcases admitted_or_refused table criteria.conditions with
      all | ⟨earlier, condition, later, found, split, before, refused⟩
    · rw [query?_of_admitted all] at failed
      contradiction
    · rw [query?_of_refused split before refused] at failed
      exact ⟨earlier, condition, later, split, before, Except.error.inj failed ▸ refused⟩
  · rintro ⟨earlier, condition, later, split, before, refused⟩
    exact query?_of_refused split before refused

/-- The conditions of criteria are admitted when the fields of the sets are indexed as text or tags
and those of the intervals as numbers. -/
theorem admitted_iff :
    (∀ condition ∈ criteria.conditions, condition.Admitted table) ↔
      (∀ criterion ∈ criteria.sets, ∃ field, table.find? criterion.field = some field ∧
          (field.kind = .text ∨ field.kind = .tag)) ∧
        ∀ criterion ∈ criteria.ranges, ∃ field, table.find? criterion.field = some field ∧
          field.kind = .numeric := by
  unfold conditions
  rw [List.forall_mem_append, List.forall_mem_map, List.forall_mem_map]
  rfl

/-- Criteria are admitted condition by condition: they have a query exactly when every set is on a
field that the table indexes as text or tags and every interval, with or without a bound, on one
that it indexes as numbers. The query is then joined from the queries of the parts that are not
empty, in the order text, sets, intervals; without a query, the error is that of the first condition
that is refused. Nothing but the kinds of the fields that are named matters. -/
theorem query?_part_by_part (table : FieldTable) (criteria : Criteria) :
    ((∃ query, criteria.query? table = .ok query) ↔
        (∀ criterion ∈ criteria.sets, ∃ field, table.find? criterion.field = some field ∧
          (field.kind = .text ∨ field.kind = .tag)) ∧
        ∀ criterion ∈ criteria.ranges, ∃ field, table.find? criterion.field = some field ∧
          field.kind = .numeric) ∧
      (∀ query, criteria.query? table = .ok query →
        ∃ queries, criteria.parts.mapM (query? table) = .ok queries ∧
          query = " ".intercalate (queries.filter (· ≠ ""))) ∧
      (∀ error, criteria.query? table = .error error ↔
        ∃ earlier condition later, criteria.conditions = earlier ++ condition :: later ∧
          (∀ other ∈ earlier, other.Admitted table) ∧ condition.Refused table error) ∧
      ∀ other : FieldTable, (∀ condition ∈ criteria.conditions, condition.Agree table other) →
        criteria.query? table = criteria.query? other := by
  refine ⟨exists_query?_iff.trans admitted_iff, ?_, fun _ => query?_eq_error_iff,
    fun _ => query?_of_agree⟩
  intro query done
  have admitted := exists_query?_iff.mp ⟨query, done⟩
  obtain ⟨parts, joined⟩ := query_eq_of_parts admitted
  rw [query?_of_admitted admitted] at done
  exact ⟨_, parts, (Except.ok.inj done).symm.trans joined⟩

/-- Over two tables that agree on its fields, criteria with a free text, tags and an interval
without a bound have one query, which the interval adds nothing to. -/
theorem query?_part_by_part_films :
    let tagged := (Criteria.empty.withText " alien ").set "genre" ["Sci-Fi", "Horror"] .any
    let criteria := tagged.withRange (.of "year" none (some .nan))
    let small : FieldTable := .ofList [⟨"year", .numeric⟩, ⟨"genre", .tag⟩]
    let query := "alien @genre:\x7bHorror|Sci\\-Fi\x7d"
    (∀ condition ∈ criteria.conditions, condition.Agree FieldTable.films small) ∧
      criteria.query? FieldTable.films = .ok query ∧
      (∃ queries, criteria.parts.mapM (query? FieldTable.films) = .ok queries ∧
        query = " ".intercalate (queries.filter (· ≠ ""))) ∧
      criteria.query? FieldTable.films = criteria.query? small := by
  intro tagged criteria small query
  obtain ⟨-, joined, -, alike⟩ := query?_part_by_part FieldTable.films criteria
  have agree : ∀ condition ∈ criteria.conditions, condition.Agree FieldTable.films small := by
    decide +kernel
  have done : criteria.query? FieldTable.films = .ok query :=
    eq_ok_of_toOption_eq_some (by decide +kernel)
  exact ⟨agree, done, joined query done, alike small agree⟩

end Criteria

end FilmFinder
