import FilmFinder.Proofs.Criteria.NormalForm
import FilmFinder.Proofs.Query.Composition

/-!
# Sets are written in one way

Typed values make a set by what trimming leaves of them: their order, blanks around them, repeated
and blank entries make no difference. The query of a set writes its values in ascending order, each
once and escaped after they are ordered, so equal sets have one query over every field table.
-/
namespace FilmFinder

/-- Two typed lists have the same values: trimming leaves the same texts of their entries, apart
from the empty one. -/
def SameValues (left right : List String) : Prop :=
  ∀ value, value ≠ "" →
    ((∃ entry ∈ left, Text.trim entry = value) ↔ ∃ entry ∈ right, Text.trim entry = value)

/-- Typed lists have the same values when every entry of each is blank or stands in the other. -/
theorem sameValues_iff {left right : List String} :
    SameValues left right ↔
      (∀ entry ∈ left, Text.trim entry ≠ "" →
          ∃ other ∈ right, Text.trim other = Text.trim entry) ∧
        ∀ entry ∈ right, Text.trim entry ≠ "" →
          ∃ other ∈ left, Text.trim other = Text.trim entry := by
  constructor
  · intro same
    exact ⟨fun entry inside solid => (same _ solid).mp ⟨entry, inside, rfl⟩,
      fun entry inside solid => (same _ solid).mpr ⟨entry, inside, rfl⟩⟩
  · rintro ⟨forth, back⟩ value solid
    constructor
    · rintro ⟨entry, inside, rfl⟩
      exact forth entry inside solid
    · rintro ⟨entry, inside, rfl⟩
      exact back entry inside solid

instance (left right : List String) : Decidable (SameValues left right) :=
  decidable_of_iff _ sameValues_iff.symm

namespace Field

/-- Values in one clause on a field: escaped, with bars between them and the brackets of the kind
of the field around them. -/
def clauseText (field : Field) (values : List String) : String :=
  "@" ++ field.name ++ ":" ++ String.singleton field.kind.opening ++
    "|".intercalate (values.map Text.escape) ++ String.singleton field.kind.closing

/-- Values as a query asks a field for them: for all of them in a clause each, for any of them in
one clause, and for none of them in that clause behind a minus. -/
def setText (field : Field) (values : List String) : Operator → String
  | .all => " ".intercalate (values.map fun value => field.clauseText [value])
  | .any => field.clauseText values
  | .none => "-" ++ field.clauseText values

end Field

/-- The text of a clause on a field. -/
theorem Clause.ofList_characters_set (negated : Bool) (field : Field) (values : List String) :
    String.ofList (Clause.set negated field.name field.kind values).characters =
      (if negated then "-" else "") ++ field.clauseText values := by
  apply String.toList_injective
  have written : valueCharacters values =
      ("|".intercalate (values.map Text.escape)).toList := by
    rw [String.toList_intercalate, List.map_map, valueCharacters]
    refine congrArg (List.intercalate ['|']) (List.map_congr_left fun value _ => ?_)
    exact String.toList_ofList.symm
  cases negated <;> simp [characters, bracketed, Field.clauseText, written]

namespace SetCriterion

variable {field : String} {left right : List String} {operator : Operator}

/-- Lists with the same values build the same set, or none. -/
theorem of?_of_sameValues (same : SameValues left right) :
    of? field left operator = of? field right operator := by
  have held : ValueSet.ofTyped left = ValueSet.ofTyped right := by
    apply Keyed.eq_of_mem_iff
    intro value
    rw [ValueSet.mem_ofTyped_iff, ValueSet.mem_ofTyped_iff]
    exact and_congr_right (same value)
  unfold of?
  simp only [held]

/-- The texts of a set on a field that the table knows make up the set as a query asks for it. -/
theorem intercalate_texts {table : FieldTable} {criterion : SetCriterion} {known : Field}
    (found : table.find? criterion.field = some known) :
    " ".intercalate ((Condition.values criterion).texts table) =
      known.setText criterion.values.items criterion.operator := by
  obtain ⟨name, operator, held, nonempty, clean⟩ := criterion
  have named : known.name = name := (Keyed.key_of_find? found).1
  have kind : table.kindOf name = known.kind := by
    simp [FieldTable.kindOf, found]
  have text (negated : Bool) (held : ValueSet) :
      String.ofList ((Demand.values negated name held).clause table).characters =
        (if negated then "-" else "") ++ known.clauseText held.items := by
    rw [Demand.clause, kind, ← named]
    exact Clause.ofList_characters_set negated known held.items
  cases operator with
  | none => exact String.intercalate_singleton.trans (text true held)
  | any => exact String.intercalate_singleton.trans ((text false held).trans String.empty_append)
  | all =>
    have texts : (Condition.values ⟨name, .all, held, nonempty, clean⟩).texts table =
        held.items.map fun value => known.clauseText [value] := by
      show (held.items.map fun value => Demand.values false name (.single value)).map _ = _
      rw [List.map_map]
      refine List.map_congr_left fun value _ => ?_
      exact (text false (.single value)).trans String.empty_append
    rw [texts]
    rfl

end SetCriterion

namespace Criteria

variable {table : FieldTable} {field : String} {typed : List String} {operator : Operator}

/-- Typed values that are all blank ask for nothing. -/
theorem query?_set_of_none (nothing : SetCriterion.of? field typed operator = none) :
    (empty.set field typed operator).query? table = .ok "" := by
  rw [set, nothing]
  rfl

/-- Typed values that make a set ask for the set alone. -/
theorem conditions_set_of_some {criterion : SetCriterion}
    (built : SetCriterion.of? field typed operator = some criterion) :
    (empty.set field typed operator).conditions = [.values criterion] := by
  rw [set, built]
  rfl

/-- What becomes of typed values that make a set: a field that is indexed as text or tags is asked
for them, and any other field fails the query. -/
theorem query?_set_of_some {criterion : SetCriterion}
    (built : SetCriterion.of? field typed operator = some criterion) (table : FieldTable) :
    (empty.set field typed operator).query? table =
      match table.find? field with
      | none => .error (.unknownField field)
      | some known =>
        if known.kind = .numeric then .error (.kindMismatch field known.kind)
        else .ok (known.setText criterion.values.items operator) := by
  have conditions := conditions_set_of_some built
  have silent : (empty.set field typed operator).text = none := (empty.set_adds ..).1
  have collects := SetCriterion.collects_of_of? field operator built
  obtain rfl := collects.field_eq
  obtain rfl := collects.operator_eq
  have first : (empty.set criterion.field typed criterion.operator).conditions =
      [] ++ .values criterion :: [] := conditions
  have fails {error : QueryError} (refused : (Condition.values criterion).Refused table error) :
      (empty.set criterion.field typed criterion.operator).query? table = .error error :=
    query?_of_refused first nofun refused
  cases found : table.find? criterion.field with
  | none => exact fails (.unknown found)
  | some known =>
    show _ = if known.kind = .numeric then _ else _
    by_cases numeric : known.kind = .numeric
    · have other : ¬ (Condition.values criterion).TakenBy known.kind := fun taken =>
        Condition.takenBy_values_iff.mp taken numeric
      rw [if_pos numeric]
      exact fails (.mismatch found other)
    · have admitted : ∀ condition ∈ [Condition.values criterion], condition.Admitted table := by
        intro condition inside
        obtain rfl := List.mem_singleton.mp inside
        exact ⟨known, found, Condition.takenBy_values_iff.mpr numeric⟩
      rw [← conditions] at admitted
      rw [if_neg numeric, query?_of_admitted admitted, texts, silent, conditions,
        ← SetCriterion.intercalate_texts found]
      simp

/-- The query for none of some values is the query for any of them behind a minus, and one fails as
the other does. -/
theorem query?_set_none (table : FieldTable) (present : ∃ entry ∈ typed, Text.trim entry ≠ "") :
    (empty.set field typed .none).query? table =
      ((empty.set field typed .any).query? table).map ("-" ++ ·) := by
  obtain ⟨none, noneBuilt, noneCollects⟩ := SetCriterion.exists_collects field .none present
  obtain ⟨any, anyBuilt, anyCollects⟩ := SetCriterion.exists_collects field .any present
  have values : none.values = any.values :=
    Keyed.eq_of_mem_iff fun value =>
      (noneCollects.mem_iff value).trans (anyCollects.mem_iff value).symm
  rw [query?_set_of_some noneBuilt, query?_set_of_some anyBuilt, values]
  cases table.find? field with
  | none => rfl
  | some known =>
    by_cases numeric : known.kind = .numeric
    · simp only [numeric, ↓reduceIte]
      rfl
    · simp only [numeric, ↓reduceIte]
      rfl

/-- The query of a set: empty when no value is left, and else the set as a query asks for it. -/
theorem query?_set_written {query : String}
    (done : (empty.set field typed operator).query? table = .ok query) :
    SetCriterion.of? field typed operator = none ∧ query = "" ∨
      ∃ criterion known, SetCriterion.of? field typed operator = some criterion ∧
        criterion.Collects field typed operator ∧ table.find? field = some known ∧
        known.kind ≠ .numeric ∧ query = known.setText criterion.values.items operator := by
  cases built : SetCriterion.of? field typed operator with
  | none =>
    have nothing : (empty.set field typed operator).query? table = .ok "" :=
      query?_set_of_none built
    exact .inl ⟨rfl, Except.ok.inj (done.symm.trans nothing)⟩
  | some criterion =>
    have collects := SetCriterion.collects_of_of? field operator built
    rw [query?_set_of_some built] at done
    cases found : table.find? field with
    | none =>
      rw [found] at done
      contradiction
    | some known =>
      simp only [found] at done
      by_cases numeric : known.kind = .numeric
      · rw [if_pos numeric] at done
        contradiction
      · rw [if_neg numeric] at done
        exact .inr ⟨criterion, known, rfl, collects, rfl, numeric, (Except.ok.inj done).symm⟩

/-- Only the values of a typed set matter. Lists with the same values build the same set, or none,
and criteria that differ in such lists alone have the same query, or fail alike. The query of a set
is empty when no value is left; else it asks a field that is indexed as text or tags for the values,
each once and in ascending order, for all of them in a clause each and for any of them in one
clause. The query for none of them is that clause behind a minus. -/
theorem set_canonical (table : FieldTable) (field : String) (operator : Operator)
    (left right : List String) (same : SameValues left right) :
    SetCriterion.of? field left operator = SetCriterion.of? field right operator ∧
      (∀ earlier later : List CriteriaStep,
        (ofSteps (earlier ++ .set field left operator :: later)).query? table =
          (ofSteps (earlier ++ .set field right operator :: later)).query? table) ∧
      (∀ query, (empty.set field left operator).query? table = .ok query →
        SetCriterion.of? field left operator = none ∧ query = "" ∨
          ∃ criterion known, SetCriterion.of? field left operator = some criterion ∧
            criterion.Collects field left operator ∧ table.find? field = some known ∧
            known.kind ≠ .numeric ∧
            query = known.setText criterion.values.items operator) ∧
      ((∃ entry ∈ left, Text.trim entry ≠ "") →
        (empty.set field left .none).query? table =
          ((empty.set field left .any).query? table).map ("-" ++ ·)) := by
  have built : SetCriterion.of? field left operator = SetCriterion.of? field right operator :=
    SetCriterion.of?_of_sameValues same
  have alike (criteria : Criteria) :
      criteria.step (.set field left operator) = criteria.step (.set field right operator) := by
    rw [step, step, set, set, built]
  refine ⟨built, fun earlier later => ?_, fun query => query?_set_written, query?_set_none table⟩
  simp only [ofSteps, List.foldl_append, List.foldl_cons, alike]

/-- Two lists with the values `a-b` and `aB`. The first value stands in front although its escaped
form would not. -/
theorem set_canonical_escaped :
    let left := ["aB ", "\u00a0a-b", "", "aB"]
    let right := ["a-b", "\t", "aB"]
    let query := "@genre:\x7ba\\-b|aB\x7d"
    SameValues left right ∧ (∃ entry ∈ left, Text.trim entry ≠ "") ∧
      (empty.set "genre" left .any).query? FieldTable.films = .ok query ∧
      SetCriterion.of? "genre" left .any = SetCriterion.of? "genre" right .any ∧
      (empty.set "genre" right .any).query? FieldTable.films = .ok query ∧
      (∃ criterion known, SetCriterion.of? "genre" left .any = some criterion ∧
        criterion.Collects "genre" left .any ∧ FieldTable.films.find? "genre" = some known ∧
        query = known.setText criterion.values.items .any) ∧
      (empty.set "genre" left .none).query? FieldTable.films = .ok ("-" ++ query) := by
  intro left right query
  have same : SameValues left right := by decide +kernel
  have present : ∃ entry ∈ left, Text.trim entry ≠ "" := by decide +kernel
  have done : (empty.set "genre" left .any).query? FieldTable.films = .ok query :=
    eq_ok_of_toOption_eq_some (by decide +kernel)
  obtain ⟨built, alike, written, negated⟩ :=
    set_canonical FieldTable.films "genre" .any left right same
  refine ⟨same, present, done, built, ?_, ?_, ?_⟩
  · exact (alike [] []).symm.trans done
  · rcases written query done with ⟨-, blank⟩ | ⟨criterion, known, set, collects, found, -, text⟩
    · exact absurd blank (by decide)
    · exact ⟨criterion, known, set, collects, found, text⟩
  · rw [negated present, done]
    rfl

end Criteria

end FilmFinder
