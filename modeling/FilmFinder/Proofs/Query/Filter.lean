import FilmFinder.FilmFilter
import FilmFinder.Proofs.Criteria
import FilmFinder.Proofs.Query.Composition

/-!
# Queries of film filters

A film filter is a form with slots, and each slot belongs to one attribute. Every attribute has its
own part of the query, which a field of the film index takes whatever is written into the form, so
every form has a query: its parts in a fixed order, without those of attributes that ask for
nothing. What is written into a slot shows in the part of its own attribute and in no other.
-/
namespace FilmFinder

namespace Criteria

variable {table : FieldTable} {name : String}

/-- A field table that indexes a field as text or tags admits every set on it. -/
theorem admitted_set (kind : FieldKind) (known : (table.find? name).map Field.kind = some kind)
    (textual : kind = .text ∨ kind = .tag) (values : List String) (operator : Operator) :
    ∀ condition ∈ (empty.set name values operator).conditions, condition.Admitted table := by
  obtain ⟨field, found, rfl⟩ := Option.map_eq_some_iff.mp known
  obtain ⟨-, sets, ranges⟩ := empty.set_adds name values operator
  intro condition inside
  rw [conditions, sets, ranges] at inside
  cases built : SetCriterion.of? name values operator with
  | none =>
    rw [built] at inside
    contradiction
  | some criterion =>
    obtain rfl : condition = .values criterion := by
      simpa [built, empty] using inside
    rw [← SetCriterion.field_of_of? built] at found
    exact ⟨field, found, textual⟩

/-- A field table that indexes a field as numbers admits every interval on it. -/
theorem admitted_range (known : (table.find? name).map Field.kind = some .numeric)
    (lower upper : Option Binary64) :
    ∀ condition ∈ (empty.range name lower upper).conditions, condition.Admitted table := by
  obtain ⟨field, found, numeric⟩ := Option.map_eq_some_iff.mp known
  obtain ⟨-, sets, ranges⟩ := empty.range_adds name lower upper
  intro condition inside
  rw [conditions, sets, ranges] at inside
  by_cases unbounded : (RangeCriterion.of name lower upper).shape = .absent
  · simp [CriteriaStep.ranges, unbounded, empty] at inside
  · obtain rfl : condition = .interval (.of name lower upper) := by
      simpa [CriteriaStep.ranges, unbounded, empty] using inside
    exact ⟨field, found, numeric⟩

end Criteria

namespace FilmFilter

/-- What one part of a query is about. -/
inductive Aspect where
  /-- The free text. -/
  | text
  /-- The actors and how they are asked for. -/
  | actors
  /-- The directors. -/
  | directors
  /-- The genres and how they are asked for. -/
  | genres
  /-- The bounds of the rating. -/
  | rating
  /-- The bounds of the length. -/
  | runtime
  /-- The bounds of the year. -/
  | year
  /-- The bounds of the critics' score. -/
  | score
  deriving DecidableEq

/-- The attributes in the order of their parts. -/
def Aspect.inOrder : List Aspect :=
  [.text, .actors, .directors, .genres, .rating, .runtime, .year, .score]

/-- How a word of a form asks for values: trimmed and in capitals, OR asks for any and NOT for none
of them; every other word, and no word, asks for all. -/
def operatorOf (word : Option String) : Operator :=
  let capitals := word.map fun text => (Text.trim text).toUpper
  if capitals = some "OR" then .any else if capitals = some "NOT" then .none else .all

/-- What an attribute asks for. -/
def step (filter : FilmFilter) : Aspect → CriteriaStep
  | .text => .text (filter.text.getD "")
  | .actors => .set "actors" (commaValues filter.actors) (operatorOf filter.actorOperator)
  | .directors => .set "director" (commaValues filter.directors) .any
  | .genres => .set "genre" (commaValues filter.genres) (operatorOf filter.genreOperator)
  | .rating => .range "rating" filter.ratingFrom filter.ratingTo
  | .runtime => .range "runtime" filter.runtimeFrom filter.runtimeTo
  | .year => .range "year" filter.yearFrom filter.yearTo
  | .score => .range "metascore" filter.scoreFrom filter.scoreTo

/-- The criteria that ask for one attribute and nothing else. -/
def alone (filter : FilmFilter) (aspect : Aspect) : Criteria :=
  Criteria.empty.step (filter.step aspect)

/-- The part of an attribute in a query over the film index; nothing if it had none. -/
def part (filter : FilmFilter) (aspect : Aspect) : String :=
  ((filter.alone aspect).query? .films).toOption.getD ""

/-- A slot of the form with what is written into it. -/
inductive Entry where
  /-- The free text. -/
  | text (words : Option String)
  /-- The list of actors. -/
  | actors (list : Option String)
  /-- How the actors are asked for. -/
  | actorOperator (word : Option String)
  /-- The list of directors. -/
  | directors (list : Option String)
  /-- The list of genres. -/
  | genres (list : Option String)
  /-- How the genres are asked for. -/
  | genreOperator (word : Option String)
  /-- The first year. -/
  | yearFrom (bound : Option Binary64)
  /-- The last year. -/
  | yearTo (bound : Option Binary64)
  /-- The lowest rating. -/
  | ratingFrom (bound : Option Binary64)
  /-- The highest rating. -/
  | ratingTo (bound : Option Binary64)
  /-- The lowest score. -/
  | scoreFrom (bound : Option Binary64)
  /-- The highest score. -/
  | scoreTo (bound : Option Binary64)
  /-- The shortest length. -/
  | runtimeFrom (bound : Option Binary64)
  /-- The greatest length. -/
  | runtimeTo (bound : Option Binary64)

/-- The attribute that a slot belongs to. -/
def Entry.aspect : Entry → Aspect
  | .text _ => .text
  | .actors _ | .actorOperator _ => .actors
  | .directors _ => .directors
  | .genres _ | .genreOperator _ => .genres
  | .yearFrom _ | .yearTo _ => .year
  | .ratingFrom _ | .ratingTo _ => .rating
  | .scoreFrom _ | .scoreTo _ => .score
  | .runtimeFrom _ | .runtimeTo _ => .runtime

/-- The form with one slot written anew. -/
def fill (filter : FilmFilter) : Entry → FilmFilter
  | .text words => { filter with text := words }
  | .actors list => { filter with actors := list }
  | .actorOperator word => { filter with actorOperator := word }
  | .directors list => { filter with directors := list }
  | .genres list => { filter with genres := list }
  | .genreOperator word => { filter with genreOperator := word }
  | .yearFrom bound => { filter with yearFrom := bound }
  | .yearTo bound => { filter with yearTo := bound }
  | .ratingFrom bound => { filter with ratingFrom := bound }
  | .ratingTo bound => { filter with ratingTo := bound }
  | .scoreFrom bound => { filter with scoreFrom := bound }
  | .scoreTo bound => { filter with scoreTo := bound }
  | .runtimeFrom bound => { filter with runtimeFrom := bound }
  | .runtimeTo bound => { filter with runtimeTo := bound }

/-- What is written into a slot is idle when it says how values are asked for of which none is left
once the blank ones are dropped. -/
def Idle (filter : FilmFilter) : Entry → Prop
  | .actorOperator _ => ∀ value ∈ commaValues filter.actors, Text.trim value = ""
  | .genreOperator _ => ∀ value ∈ commaValues filter.genres, Text.trim value = ""
  | _ => False

/-- Operators are compared with words trimmed and in capitals. -/
theorem normalWord_eq (text : String) : Operator.normalWord text = (Text.trim text).toUpper := by
  apply String.toList_injective
  rw [Operator.normalWord, String.toList_ofList, String.toUpper, String.toList_map, Text.trim,
    String.toList_ofList]

/-- The word of a form is read by the table of operators. -/
theorem ofRequest_eq (word : Option String) : Operator.ofRequest word = operatorOf word := by
  unfold Operator.ofRequest operatorOf
  cases word with
  | none => rfl
  | some text =>
    simp only [Option.bind_some, Option.map_some, Option.some.injEq, Operator.ofWord?,
      Operator.everyOperator, List.find?_cons, Operator.word, ← normalWord_eq]
    by_cases all : Operator.normalWord text = "AND"
    · simp [all]
    · by_cases any : Operator.normalWord text = "OR"
      · simp [any]
      · by_cases none : Operator.normalWord text = "NOT"
        · simp [none]
        · simp [any, none, Ne.symm all, Ne.symm any, Ne.symm none]

variable (filter : FilmFilter) {aspect : Aspect} {entry : Entry}

/-- A form asks for its attributes one after another. -/
theorem criteria_eq_ofSteps : filter.criteria = .ofSteps (Aspect.inOrder.map filter.step) := by
  obtain ⟨text, -, -, -, -, -, -⟩ := filter
  simp only [criteria, ofRequest_eq]
  cases text <;> rfl

/-- The free text of a form is that of its text alone. -/
theorem text_criteria : filter.criteria.text = (filter.alone .text).text := by
  have silent : ∀ step ∈ Aspect.inOrder.tail.map filter.step, step.IsSilent := by
    simp [Aspect.inOrder, step, CriteriaStep.IsSilent]
  have first : Aspect.inOrder = .text :: Aspect.inOrder.tail := rfl
  rw [criteria_eq_ofSteps, Criteria.ofSteps, first, List.map_cons, List.foldl_cons,
    Criteria.text_foldl_step _ silent, alone]

/-- A form sets the conditions that its attributes set, one attribute after another. -/
theorem conditions_criteria :
    filter.criteria.conditions =
      Aspect.inOrder.flatMap fun aspect => (filter.alone aspect).conditions := by
  have sets (aspect : Aspect) : (filter.alone aspect).sets = (filter.step aspect).sets :=
    Criteria.empty.sets_step _
  have ranges (aspect : Aspect) : (filter.alone aspect).ranges = (filter.step aspect).ranges :=
    Criteria.empty.ranges_step _
  rw [criteria_eq_ofSteps, Criteria.ofSteps]
  unfold Criteria.conditions
  rw [Criteria.sets_foldl_step, Criteria.ranges_foldl_step]
  simp [Aspect.inOrder, sets, ranges, step, CriteriaStep.sets, CriteriaStep.ranges, Criteria.empty]

/-- The texts of a query are those of the attributes, one attribute after another. -/
theorem texts_criteria (table : FieldTable) :
    filter.criteria.texts table =
      (Aspect.inOrder.map fun aspect => (filter.alone aspect).texts table).flatten := by
  have silent (aspect : Aspect) (other : aspect ≠ .text) : (filter.alone aspect).text = none := by
    refine Criteria.empty.text_step ?_
    cases aspect with
    | text => exact absurd rfl other
    | _ => trivial
  have bare : (filter.alone .text).conditions = [] := rfl
  unfold Criteria.texts
  rw [text_criteria, conditions_criteria]
  simp [Aspect.inOrder, bare, silent]

/-- The film index admits what an attribute asks for. -/
theorem admitted_alone (aspect : Aspect) :
    ∀ condition ∈ (filter.alone aspect).conditions, condition.Admitted .films := by
  cases aspect with
  | text => exact fun _ inside => nomatch inside
  | actors => exact Criteria.admitted_set .tag (by decide +kernel) (.inr rfl) _ _
  | directors => exact Criteria.admitted_set .text (by decide +kernel) (.inl rfl) _ _
  | genres => exact Criteria.admitted_set .tag (by decide +kernel) (.inr rfl) _ _
  | rating => exact Criteria.admitted_range (by decide +kernel) _ _
  | runtime => exact Criteria.admitted_range (by decide +kernel) _ _
  | year => exact Criteria.admitted_range (by decide +kernel) _ _
  | score => exact Criteria.admitted_range (by decide +kernel) _ _

/-- What an attribute asks for has a query: the part of the attribute. -/
theorem query?_alone (aspect : Aspect) :
    (filter.alone aspect).query? .films = .ok (filter.part aspect) := by
  have done := Criteria.query?_of_admitted (filter.admitted_alone aspect)
  unfold part
  rw [done]
  rfl

/-- The part of an attribute is its texts with a space between them. -/
theorem part_eq (aspect : Aspect) :
    filter.part aspect = " ".intercalate ((filter.alone aspect).texts .films) :=
  Except.ok.inj ((filter.query?_alone aspect).symm.trans
    (Criteria.query?_of_admitted (filter.admitted_alone aspect)))

/-- The part of the free text is the text that was typed, trimmed; it is missing when that is
blank. -/
theorem part_text : filter.part .text = Text.trim (filter.text.getD "") := by
  have kept : (filter.alone .text).text = Criteria.textOf (filter.text.getD "") :=
    Criteria.text_withText _ _
  have bare : (filter.alone .text).conditions = [] := rfl
  rw [part_eq, Criteria.texts, kept, bare, Criteria.textOf]
  by_cases blank : Text.trim (filter.text.getD "") = ""
  · rw [if_pos blank, blank]
    rfl
  · rw [if_neg blank]
    rfl

/-- The film index admits what a form asks for. -/
theorem admitted_criteria :
    ∀ condition ∈ filter.criteria.conditions, condition.Admitted .films := by
  intro condition inside
  rw [conditions_criteria] at inside
  obtain ⟨aspect, -, held⟩ := List.mem_flatMap.mp inside
  exact filter.admitted_alone aspect condition held

/-- The query of a form is joined from the parts of its attributes that are not empty. -/
theorem query?_criteria :
    filter.criteria.query? .films =
      .ok (" ".intercalate ((Aspect.inOrder.map filter.part).filter (· ≠ ""))) := by
  have filled : ∀ group ∈ Aspect.inOrder.map fun aspect => (filter.alone aspect).texts .films,
      ∀ part ∈ group, part ≠ "" := by
    intro group inside part held
    obtain ⟨aspect, -, rfl⟩ := List.mem_map.mp inside
    exact Criteria.text_ne_empty held
  rw [Criteria.query?_of_admitted filter.admitted_criteria, texts_criteria,
    Text.intercalate_flatten filled, List.map_map]
  simp only [Function.comp_def, ← part_eq]

/-- What is written into a slot does not change what another attribute asks for. -/
theorem step_fill (other : aspect ≠ entry.aspect) :
    (filter.fill entry).step aspect = filter.step aspect := by
  cases entry <;> cases aspect <;> first | rfl | exact absurd rfl other

/-- What is written into a slot does not change the part of another attribute. -/
theorem part_fill (other : aspect ≠ entry.aspect) :
    (filter.fill entry).part aspect = filter.part aspect := by
  unfold part alone
  rw [filter.step_fill other]

/-- A set of blank values changes nothing, however it is asked for. -/
theorem step_of_blank {list : Option String}
    (blank : ∀ value ∈ commaValues list, Text.trim value = "") (criteria : Criteria)
    (field : String) (operator : Operator) :
    criteria.step (.set field (commaValues list) operator) = criteria := by
  rw [Criteria.step, Criteria.set, SetCriterion.of?_of_blank blank]

/-- What is idle does not change what a form asks for. -/
theorem criteria_fill (idle : filter.Idle entry) :
    (filter.fill entry).criteria = filter.criteria := by
  have same (criteria : Criteria) (aspect : Aspect) :
      criteria.step ((filter.fill entry).step aspect) = criteria.step (filter.step aspect) := by
    by_cases own : aspect = entry.aspect
    · subst own
      cases entry with
      | actorOperator word =>
        exact (step_of_blank idle ..).trans (step_of_blank idle ..).symm
      | genreOperator word =>
        exact (step_of_blank idle ..).trans (step_of_blank idle ..).symm
      | _ => exact idle.elim
    · rw [filter.step_fill own]
  simp only [criteria_eq_ofSteps, Criteria.ofSteps, List.foldl_map, same]

/-- Every form has a query over the film index: the parts of its attributes that are not empty, in
their order and with a space between them, where each part is the query of what its attribute alone
asks for, and that of the free text is the text, trimmed. What is written into a slot shows in the
part of no other attribute, and how values are asked for makes no difference when none is left. -/
theorem query_attribute_by_attribute :
    (∀ aspect, (filter.alone aspect).query? .films = .ok (filter.part aspect)) ∧
      filter.part .text = Text.trim (filter.text.getD "") ∧
      filter.criteria.query? .films =
        .ok (" ".intercalate ((Aspect.inOrder.map filter.part).filter (· ≠ ""))) ∧
      (∀ entry aspect, aspect ≠ Entry.aspect entry →
        (filter.fill entry).part aspect = filter.part aspect) ∧
      ∀ entry, filter.Idle entry → (filter.fill entry).criteria = filter.criteria :=
  ⟨filter.query?_alone, filter.part_text, filter.query?_criteria, fun _ _ => filter.part_fill,
    fun _ => filter.criteria_fill⟩

/-- A form with a free text, two actors, blank genres and a lowest rating has the parts of the text,
of the actors and of the rating, whatever word says how the genres are asked for, and the actors
stay when a last year is written. -/
theorem query_attribute_by_attribute_drama :
    let filter : FilmFilter :=
      { text := some "\t space opera\n", actors := some "Vin Diesel, ,Chris Pratt",
        actorOperator := some " oR ", genres := some " , ", ratingFrom := some (.ofNat 7),
        ratingTo := some .nan }
    let query := "space opera @actors:\x7bChris Pratt|Vin Diesel\x7d @rating:[7 inf]"
    Aspect.actors ≠ Entry.aspect (.yearTo (some .nan)) ∧
      filter.Idle (.genreOperator (some "not")) ∧
      filter.part .text = "space opera" ∧
      filter.criteria.query? .films = .ok query ∧
      " ".intercalate ((Aspect.inOrder.map filter.part).filter (· ≠ "")) = query ∧
      (filter.fill (.yearTo (some .nan))).part .actors = filter.part .actors ∧
      (filter.fill (.genreOperator (some "not"))).criteria = filter.criteria := by
  intro filter query
  obtain ⟨-, words, joined, kept, unchanged⟩ := query_attribute_by_attribute filter
  have other : Aspect.actors ≠ Entry.aspect (.yearTo (some .nan)) := nofun
  have idle : filter.Idle (.genreOperator (some "not")) := by
    have blank : ∀ value ∈ commaValues (some " , "), Text.trim value = "" := by decide +kernel
    exact blank
  have trimmed : Text.trim "\t space opera\n" = "space opera" := by decide +kernel
  have done : filter.criteria.query? .films = .ok query :=
    eq_ok_of_toOption_eq_some (by decide +kernel)
  have parts : " ".intercalate ((Aspect.inOrder.map filter.part).filter (· ≠ "")) = query := by
    rw [done] at joined
    exact (Except.ok.inj joined).symm
  have stayed : (filter.fill (.yearTo (some .nan))).part .actors = filter.part .actors :=
    kept _ _ other
  have same : (filter.fill (.genreOperator (some "not"))).criteria = filter.criteria :=
    unchanged _ idle
  exact ⟨other, idle, words.trans trimmed, done, parts, stayed, same⟩

end FilmFilter

end FilmFinder
