import FilmFinder.Proofs.Chain
import FilmFinder.Proofs.Field

/-!
# What a query demands

The demands of criteria say what is asked of which field, apart from how a query writes it:
which values a field has any or none of, and which interval it lies in. They need no field
table; the table only adds the kind of each field, and with it the brackets. The clauses of a
query are the clauses of its demands, and the table admits every one of them.
-/
namespace FilmFinder

/-- One thing that is asked of a field. -/
inductive Demand where
  /-- The field has any of some values, or none of them when negated. -/
  | values (negated : Bool) (field : String) (values : ValueSet)
  /-- The field lies in an interval. -/
  | interval (field : String) (shape : RangeShape)
  deriving DecidableEq

/-- The set of one value. -/
def ValueSet.single (value : String) : ValueSet := ⟨[value], List.pairwise_singleton _ _⟩

/-- What a set demands: all of some values are demanded one by one, in ascending order. -/
def SetCriterion.demands (criterion : SetCriterion) : List Demand :=
  match criterion.operator with
  | .none => [.values true criterion.field criterion.values]
  | .any => [.values false criterion.field criterion.values]
  | .all => criterion.values.items.map fun value => .values false criterion.field (.single value)

/-- What an interval demands: nothing when it has no bound. -/
def RangeCriterion.demands (criterion : RangeCriterion) : List Demand :=
  if criterion.shape = .absent then [] else [.interval criterion.field criterion.shape]

/-- What criteria demand, the free text apart: the demands of the sets, then those of the
intervals, each in the order in which they were added. -/
def Criteria.demands (criteria : Criteria) : List Demand :=
  criteria.sets.flatMap SetCriterion.demands ++ criteria.ranges.flatMap RangeCriterion.demands

/-- The kind of a field, as far as a field table knows it. -/
def FieldTable.kindOf (table : FieldTable) (name : String) : FieldKind :=
  ((table.find? name).map Field.kind).getD .tag

namespace Demand

/-- The clause that writes a demand over a field table. -/
def clause (table : FieldTable) : Demand → Clause
  | .values negated field held => .set negated field (table.kindOf field) held.items
  | .interval field shape => .range field shape

/-- A field table admits a demand: it knows the field under a kind that takes the demand, and the
demand asks for something. -/
def Admitted (table : FieldTable) : Demand → Prop
  | .values _ name held =>
    held.items ≠ [] ∧ ∃ field, table.find? name = some field ∧ field.kind ≠ .numeric
  | .interval name shape =>
    shape ≠ .absent ∧ ∃ field, table.find? name = some field ∧ field.kind = .numeric

end Demand

/-- The clauses of a set are those of its demands, and the table admits them. -/
theorem SetCriterion.clauses_eq {table : FieldTable} {criterion : SetCriterion}
    {clauses : List Clause} (done : criterion.clauses? table = .ok clauses) :
    clauses = criterion.demands.map (Demand.clause table) ∧
      ∀ demand ∈ criterion.demands, demand.Admitted table := by
  obtain ⟨field, given, done⟩ := exists_of_bind_eq_ok done
  have found := FieldTable.field?_eq_ok_iff.mp given
  have named := (Keyed.key_of_find? found).1
  have kind : table.kindOf criterion.field = field.kind := by
    simp [FieldTable.kindOf, found]
  split at done
  · contradiction
  next textual =>
    obtain rfl := Except.ok.inj done
    unfold demands
    cases criterion.operator with
    | none =>
      refine ⟨by simp [Demand.clause, kind, named], fun demand inside => ?_⟩
      obtain rfl := List.mem_singleton.mp inside
      exact ⟨criterion.nonempty, field, found, textual⟩
    | any =>
      refine ⟨by simp [Demand.clause, kind, named], fun demand inside => ?_⟩
      obtain rfl := List.mem_singleton.mp inside
      exact ⟨criterion.nonempty, field, found, textual⟩
    | all =>
      refine ⟨by simp [Demand.clause, kind, named, ValueSet.single], fun demand inside => ?_⟩
      obtain ⟨value, -, rfl⟩ := List.mem_map.mp inside
      exact ⟨List.cons_ne_nil _ _, field, found, textual⟩

/-- The clauses of an interval are those of its demands, and the table admits them. -/
theorem RangeCriterion.clauses_eq {table : FieldTable} {criterion : RangeCriterion}
    {clauses : List Clause} (done : criterion.clauses? table = .ok clauses) :
    clauses = criterion.demands.map (Demand.clause table) ∧
      ∀ demand ∈ criterion.demands, demand.Admitted table := by
  obtain ⟨field, given, done⟩ := exists_of_bind_eq_ok done
  have found := FieldTable.field?_eq_ok_iff.mp given
  have named := (Keyed.key_of_find? found).1
  split at done
  next numeric =>
    obtain rfl := Except.ok.inj done
    unfold demands
    split
    · exact ⟨rfl, by simp⟩
    next present =>
      refine ⟨by simp [Demand.clause, named], fun demand inside => ?_⟩
      obtain rfl := List.mem_singleton.mp inside
      exact ⟨present, field, found, numeric⟩
  · contradiction

/-- When every item gives the clauses of its demands, a list of items gives those of all. -/
theorem clauses_eq_of_mapM {α : Type} {table : FieldTable}
    {clauses? : α → Except QueryError (List Clause)} {demands : α → List Demand}
    (each : ∀ item clauses, clauses? item = .ok clauses →
      clauses = (demands item).map (Demand.clause table) ∧
        ∀ demand ∈ demands item, demand.Admitted table)
    {items : List α} {lists : List (List Clause)} (done : items.mapM clauses? = .ok lists) :
    lists.flatten = (items.flatMap demands).map (Demand.clause table) ∧
      ∀ demand ∈ items.flatMap demands, demand.Admitted table := by
  induction items generalizing lists with
  | nil =>
    obtain rfl := Except.ok.inj done
    exact ⟨rfl, by simp⟩
  | cons item items step =>
    rw [List.mapM_cons] at done
    obtain ⟨clauses, first, done⟩ := exists_of_bind_eq_ok done
    obtain ⟨others, rest, done⟩ := exists_of_bind_eq_ok done
    obtain rfl := Except.ok.inj done
    obtain ⟨rfl, admitted⟩ := each item clauses first
    obtain ⟨flattened, othersAdmitted⟩ := step rest
    refine ⟨by simp [flattened], fun demand inside => ?_⟩
    rw [List.flatMap_cons] at inside
    rcases List.mem_append.mp inside with early | late
    · exact admitted demand early
    · exact othersAdmitted demand late

/-- The clauses of criteria are those of their demands, and the table admits them. -/
theorem Criteria.clauses_eq {table : FieldTable} {criteria : Criteria} {clauses : List Clause}
    (done : criteria.clauses? table = .ok clauses) :
    clauses = criteria.demands.map (Demand.clause table) ∧
      ∀ demand ∈ criteria.demands, demand.Admitted table := by
  obtain ⟨sets, setsDone, done⟩ := exists_of_bind_eq_ok done
  obtain ⟨ranges, rangesDone, done⟩ := exists_of_bind_eq_ok done
  obtain rfl := Except.ok.inj done
  obtain ⟨setClauses, setsAdmitted⟩ :=
    clauses_eq_of_mapM (fun _ _ => SetCriterion.clauses_eq) setsDone
  obtain ⟨rangeClauses, rangesAdmitted⟩ :=
    clauses_eq_of_mapM (fun _ _ => RangeCriterion.clauses_eq) rangesDone
  refine ⟨by rw [setClauses, rangeClauses, demands, List.map_append], fun demand inside => ?_⟩
  rcases List.mem_append.mp inside with early | late
  · exact setsAdmitted demand early
  · exact rangesAdmitted demand late

/-- A query without free text is the clauses of its demands with a space between them. -/
theorem Criteria.query_eq {table : FieldTable} {criteria : Criteria} {query : String}
    (bare : criteria.text = none) (done : criteria.query? table = .ok query) :
    query = String.ofList (queryCharacters none (criteria.demands.map (Demand.clause table))) ∧
      ∀ demand ∈ criteria.demands, demand.Admitted table := by
  obtain ⟨clauses, clausesDone, done⟩ := exists_of_bind_eq_ok done
  obtain rfl := Except.ok.inj done
  obtain ⟨rfl, admitted⟩ := clauses_eq clausesDone
  exact ⟨by rw [bare], admitted⟩

end FilmFinder
