import FilmFinder.Proofs.Number.Plain
import FilmFinder.Proofs.Query.Demand
import FilmFinder.Proofs.Text.Delimited

/-!
# Query text is unambiguous

Over a field table without a colon in its names, the text of a query determines what the query
demands: a clause ends where its bracket closes, whatever its values hold, and so one clause
can be told from the next. Two queries without free text are equal exactly when their criteria
demand the same.
-/
namespace FilmFinder

/-- No name in a field table holds the colon that ends a name in a query. -/
def FieldTable.ColonFree (table : FieldTable) : Prop :=
  ∀ field ∈ table.items, ':' ∉ field.name.toList

/-- The table of the film index has no colon in its names. -/
theorem FieldTable.films_colonFree : FieldTable.films.ColonFree := by
  unfold ColonFree
  decide

namespace Clause

/-- The brackets of a field close with a delimiter of escaped texts other than the bar. -/
theorem closing_ends (kind : FieldKind) : Text.IsDelimiter kind.closing ∧ kind.closing ≠ '|' := by
  cases kind <;> decide

/-- A name without a colon ends at the colon, and what follows its bracket is determined. -/
theorem bracketed_split {left right : String} (leftFree : ':' ∉ left.toList)
    (rightFree : ':' ∉ right.toList) {leftKind rightKind : FieldKind}
    {leftBody rightBody leftRest rightRest : List Char}
    (same : bracketed left leftKind leftBody ++ leftRest =
      bracketed right rightKind rightBody ++ rightRest) :
    left = right ∧ leftBody ++ leftKind.closing :: leftRest =
      rightBody ++ rightKind.closing :: rightRest := by
  unfold bracketed at same
  simp only [List.cons_append, List.append_assoc, List.nil_append, List.cons.injEq, true_and]
    at same
  have free {name : String} (noColon : ':' ∉ name.toList) :
      ∀ character ∈ name.toList, character ≠ ':' := by
    rintro character inside rfl
    exact noColon inside
  obtain ⟨names, -, rests⟩ := Text.split_at_outside (fun character => character ≠ ':')
    (free leftFree) (free rightFree) (by simp) (by simp) same
  exact ⟨String.toList_inj.mp names, (List.cons.inj rests).2⟩

/-- Values in a clause end at the bracket that closes them. -/
theorem valueCharacters_split {left right : List String} (leftPresent : left ≠ [])
    (rightPresent : right ≠ []) {kind : FieldKind} {leftRest rightRest : List Char}
    (same : valueCharacters left ++ kind.closing :: leftRest =
      valueCharacters right ++ kind.closing :: rightRest) :
    left = right ∧ leftRest = rightRest := by
  obtain ⟨ends, notBar⟩ := closing_ends kind
  have stopsAt (rest : List Char) : ∃ delimiter tail,
      kind.closing :: rest = delimiter :: tail ∧ Text.IsDelimiter delimiter :=
    ⟨_, _, rfl, ends⟩
  have apart (rest : List Char) : (kind.closing :: rest).head? ≠ some '|' := by
    simpa using notBar
  obtain ⟨values, rests⟩ := Text.joined_split '|'
    (fun value : String => Text.escaped value.toList)
    (fun rest => ∃ delimiter tail, rest = delimiter :: tail ∧ Text.IsDelimiter delimiter)
    (fun rest => ⟨'|', rest, rfl, by decide⟩)
    (by
      rintro first - second - _ _ ⟨leftEnd, leftTail, rfl, leftEnds⟩ ⟨rightEnd, rightTail, rfl,
        rightEnds⟩ texts
      obtain ⟨values, delimiters, tails⟩ := Text.escaped_split leftEnds rightEnds texts
      exact ⟨String.toList_inj.mp values, by rw [delimiters, tails]⟩)
    leftPresent rightPresent (stopsAt leftRest) (stopsAt rightRest) (apart leftRest)
    (apart rightRest) same
  exact ⟨values, (List.cons.inj rests).2⟩

/-- The text of an interval up to the first character outside plain notation, that character and
what follows it. -/
def shapeCut : RangeShape → List Char × Char × List Char
  | .exact value => ([], '(', numberCharacters value)
  | .upperOnly upper => (['-'], 'i', "nf (".toList ++ numberCharacters upper)
  | .lowerOnly lower => (numberCharacters lower, ' ', "inf".toList)
  | .bounded lower upper => (numberCharacters upper, ' ', numberCharacters lower)
  | .absent => ([], ' ', [])

/-- The cut of an interval puts its text together and falls at a character outside plain
notation. -/
theorem shapeCut_spec {shape : RangeShape} (present : shape ≠ .absent) :
    shapeCharacters shape = (shapeCut shape).1 ++ (shapeCut shape).2.1 :: (shapeCut shape).2.2 ∧
      (∀ character ∈ (shapeCut shape).1, Numeral.isPlainCharacter character = true) ∧
      ¬ Numeral.isPlainCharacter (shapeCut shape).2.1 = true := by
  have bracketOutside : ¬ Numeral.isPlainCharacter '(' = true := by decide
  have letterOutside : ¬ Numeral.isPlainCharacter 'i' = true := by decide
  have spaceOutside : ¬ Numeral.isPlainCharacter ' ' = true := by decide
  cases shape with
  | exact value =>
    exact ⟨rfl, fun _ inside => absurd inside List.not_mem_nil, bracketOutside⟩
  | upperOnly upper =>
    refine ⟨rfl, fun character inside => ?_, letterOutside⟩
    obtain rfl := List.mem_singleton.mp inside
    rfl
  | lowerOnly lower =>
    exact ⟨rfl, fun _ => NumberLayout.isPlainCharacter_of_mem_query, spaceOutside⟩
  | bounded lower upper =>
    exact ⟨rfl, fun _ => NumberLayout.isPlainCharacter_of_mem_query, spaceOutside⟩
  | absent => exact absurd rfl present

/-- A number is not the word for no upper bound. -/
theorem numberCharacters_ne_inf (value : Binary64.Finite) :
    numberCharacters value ≠ "inf".toList := by
  intro same
  have letter : 'i' ∈ numberCharacters value := by
    rw [same]
    decide
  exact absurd (NumberLayout.isPlainCharacter_of_mem_query letter) (by decide)

/-- The text of an interval that asks for something determines the interval. -/
theorem shape_eq_of_characters_eq {left right : RangeShape} (leftPresent : left ≠ .absent)
    (rightPresent : right ≠ .absent) (same : shapeCharacters left = shapeCharacters right) :
    left = right := by
  obtain ⟨leftText, leftPlain, leftOutside⟩ := shapeCut_spec leftPresent
  obtain ⟨rightText, rightPlain, rightOutside⟩ := shapeCut_spec rightPresent
  rw [leftText, rightText] at same
  obtain ⟨fronts, cuts, rests⟩ :=
    Text.split_at_outside _ leftPlain rightPlain leftOutside rightOutside same
  cases left <;> cases right <;>
    simp only [shapeCut, Char.reduceEq, ne_eq, reduceCtorEq, not_false_eq_true, not_true_eq_false]
      at fronts cuts rests leftPresent rightPresent
  case exact.exact => rw [NumberLayout.query_characters_injective rests]
  case upperOnly.upperOnly =>
    rw [NumberLayout.query_characters_injective (List.append_cancel_left rests)]
  case lowerOnly.lowerOnly => rw [NumberLayout.query_characters_injective fronts]
  case lowerOnly.bounded => exact absurd rests.symm (numberCharacters_ne_inf _)
  case bounded.lowerOnly => exact absurd rests (numberCharacters_ne_inf _)
  case bounded.bounded =>
    rw [NumberLayout.query_characters_injective fronts,
      NumberLayout.query_characters_injective rests]

/-- No text of an interval holds the bracket that closes it. -/
theorem bracket_not_mem_shape (shape : RangeShape) : ']' ∉ shapeCharacters shape := by
  have number (value : Binary64.Finite) : ']' ∉ numberCharacters value := fun inside =>
    absurd (NumberLayout.isPlainCharacter_of_mem_query inside) (by decide)
  intro inside
  cases shape with
  | exact value =>
    rcases List.mem_cons.mp inside with opening | inside
    · exact absurd opening (by decide)
    · exact number value inside
  | upperOnly upper =>
    rcases List.mem_append.mp inside with word | inside
    · exact absurd word (by decide)
    · exact number upper inside
  | lowerOnly lower =>
    rcases List.mem_append.mp inside with inside | word
    · exact number lower inside
    · exact absurd word (by decide)
  | bounded lower upper =>
    rcases List.mem_append.mp inside with inside | inside
    · exact number upper inside
    · rcases List.mem_cons.mp inside with space | inside
      · exact absurd space (by decide)
      · exact number lower inside
  | absent => exact absurd inside List.not_mem_nil

/-- An interval in a clause ends at the bracket that closes it. -/
theorem shapeCharacters_split {left right : RangeShape} (leftPresent : left ≠ .absent)
    (rightPresent : right ≠ .absent) {leftRest rightRest : List Char}
    (same : shapeCharacters left ++ FieldKind.numeric.closing :: leftRest =
      shapeCharacters right ++ FieldKind.numeric.closing :: rightRest) :
    left = right ∧ leftRest = rightRest := by
  have free (shape : RangeShape) : ∀ character ∈ shapeCharacters shape, character ≠ ']' := by
    rintro character inside rfl
    exact bracket_not_mem_shape shape inside
  obtain ⟨shapes, -, rests⟩ := Text.split_at_outside (fun character => character ≠ ']')
    (free left) (free right) (by decide) (by decide) same
  exact ⟨shape_eq_of_characters_eq leftPresent rightPresent shapes, rests⟩

end Clause

namespace Demand

variable {table : FieldTable}

/-- The field that a demand asks something of. -/
def field : Demand → String
  | .values _ name _ => name
  | .interval name _ => name

/-- A field that takes a demand is known by a name without a colon. -/
theorem Admitted.colonFree (colonFree : table.ColonFree) {demand : Demand}
    (admitted : demand.Admitted table) : ':' ∉ demand.field.toList := by
  have known : ∃ field, table.find? demand.field = some field := by
    cases demand with
    | values negated name held => exact admitted.2.imp fun _ => And.left
    | interval name shape => exact admitted.2.imp fun _ => And.left
  obtain ⟨field, found⟩ := known
  obtain ⟨named, inside⟩ := Keyed.key_of_find? found
  rw [← named]
  exact colonFree field inside

/-- The sign in front of a clause: a minus when the clause is negated. -/
def sign : Demand → List Char
  | .values negated _ _ => if negated then ['-'] else []
  | .interval _ _ => []

/-- What stands between the brackets of a clause. -/
def body : Demand → List Char
  | .values _ _ held => Clause.valueCharacters held.items
  | .interval _ shape => Clause.shapeCharacters shape

/-- The kind of field whose brackets stand in a clause. -/
def bracketKind (table : FieldTable) : Demand → FieldKind
  | .values _ name _ => table.kindOf name
  | .interval _ _ => .numeric

/-- A clause is a sign and a field with a body in the brackets of its kind. -/
theorem clause_characters (table : FieldTable) (demand : Demand) :
    (demand.clause table).characters =
      demand.sign ++ Clause.bracketed demand.field (demand.bracketKind table) demand.body := by
  cases demand <;> rfl

/-- The brackets of an admitted demand are those of its field. -/
theorem Admitted.bracketKind_eq {demand : Demand} (admitted : demand.Admitted table) :
    demand.bracketKind table = table.kindOf demand.field := by
  cases demand with
  | values negated name held => rfl
  | interval name shape =>
    obtain ⟨-, field, found, numeric⟩ := admitted
    simp [bracketKind, FieldTable.kindOf, Demand.field, found, numeric]

/-- Clauses agree in their sign and in what follows it. -/
theorem sign_split {left right : Demand} {leftKind rightKind : FieldKind}
    {leftBody rightBody leftRest rightRest : List Char}
    (same : left.sign ++ (Clause.bracketed left.field leftKind leftBody ++ leftRest) =
      right.sign ++ (Clause.bracketed right.field rightKind rightBody ++ rightRest)) :
    left.sign = right.sign ∧ Clause.bracketed left.field leftKind leftBody ++ leftRest =
      Clause.bracketed right.field rightKind rightBody ++ rightRest := by
  have cases (demand : Demand) : demand.sign = ['-'] ∨ demand.sign = [] := by
    rcases demand with ⟨_ | _, _, _⟩ | _
    · exact .inr rfl
    · exact .inl rfl
    · exact .inr rfl
  rcases cases left with leftSign | leftSign <;> rcases cases right with rightSign | rightSign <;>
    rw [leftSign, rightSign] at same ⊢
  · exact ⟨rfl, (List.cons.inj same).2⟩
  · exact absurd (List.cons.inj same).1 (by decide)
  · exact absurd (List.cons.inj same).1 (by decide)
  · exact ⟨rfl, same⟩

/-- The clause of an admitted demand determines the demand and where the clause ends. -/
theorem clause_split (colonFree : table.ColonFree) {left right : Demand}
    (leftAdmitted : left.Admitted table) (rightAdmitted : right.Admitted table)
    {leftRest rightRest : List Char}
    (same : (left.clause table).characters ++ leftRest =
      (right.clause table).characters ++ rightRest) :
    left = right ∧ leftRest = rightRest := by
  rw [clause_characters, clause_characters, List.append_assoc, List.append_assoc] at same
  obtain ⟨signs, same⟩ := sign_split same
  obtain ⟨fields, same⟩ := Clause.bracketed_split (leftAdmitted.colonFree colonFree)
    (rightAdmitted.colonFree colonFree) same
  have kinds : left.bracketKind table = right.bracketKind table := by
    rw [leftAdmitted.bracketKind_eq, rightAdmitted.bracketKind_eq, fields]
  cases left with
  | values leftNegated leftField leftHeld =>
    cases right with
    | values rightNegated rightField rightHeld =>
      rw [kinds] at same
      obtain ⟨items, rests⟩ := Clause.valueCharacters_split leftAdmitted.1 rightAdmitted.1 same
      have negations : leftNegated = rightNegated := by
        cases leftNegated <;> cases rightNegated <;> simp [sign] at signs ⊢
      obtain rfl : leftField = rightField := fields
      obtain rfl : leftHeld = rightHeld := by
        cases leftHeld
        cases rightHeld
        simpa using items
      exact ⟨by rw [negations], rests⟩
    | interval rightField shape =>
      obtain ⟨-, leftKnown, leftFound, textual⟩ := leftAdmitted
      obtain ⟨-, rightKnown, rightFound, numeric⟩ := rightAdmitted
      obtain rfl : leftField = rightField := fields
      obtain rfl : leftKnown = rightKnown := Option.some.inj (leftFound.symm.trans rightFound)
      exact absurd numeric textual
  | interval leftField leftShape =>
    cases right with
    | values negated rightField held =>
      obtain ⟨-, leftKnown, leftFound, numeric⟩ := leftAdmitted
      obtain ⟨-, rightKnown, rightFound, textual⟩ := rightAdmitted
      obtain rfl : leftField = rightField := fields
      obtain rfl : leftKnown = rightKnown := Option.some.inj (leftFound.symm.trans rightFound)
      exact absurd numeric textual
    | interval rightField rightShape =>
      obtain ⟨shapes, rests⟩ :=
        Clause.shapeCharacters_split leftAdmitted.1 rightAdmitted.1 same
      obtain rfl : leftField = rightField := fields
      exact ⟨by rw [shapes], rests⟩

/-- No clause is empty. -/
theorem clause_characters_ne_nil (demand : Demand) : (demand.clause table).characters ≠ [] := by
  rw [clause_characters]
  simp [Clause.bracketed]

/-- The text of a query without free text determines its demands. -/
theorem eq_of_queryCharacters_eq (colonFree : table.ColonFree) {left right : List Demand}
    (leftAdmitted : ∀ demand ∈ left, demand.Admitted table)
    (rightAdmitted : ∀ demand ∈ right, demand.Admitted table)
    (same : Criteria.queryCharacters none (left.map (clause table)) =
      Criteria.queryCharacters none (right.map (clause table))) : left = right := by
  unfold Criteria.queryCharacters at same
  simp only [Option.toList_none, List.map_nil, List.nil_append, List.map_map] at same
  have starts {demand : Demand} {demands : List Demand} :
      [' '].intercalate ((demand :: demands).map (Clause.characters ∘ clause table)) ≠ [] := by
    cases demands <;> simp [clause_characters_ne_nil]
  by_cases leftEmpty : left = []
  · subst leftEmpty
    cases right with
    | nil => rfl
    | cons demand demands => exact absurd same.symm starts
  · by_cases rightEmpty : right = []
    · subst rightEmpty
      cases left with
      | nil => rfl
      | cons demand demands => exact absurd same starts
    · refine (Text.joined_split ' ' (Clause.characters ∘ clause table) (fun _ => True)
        (fun _ => trivial) ?_ leftEmpty rightEmpty trivial trivial (by simp) (by simp)
        (congrArg (· ++ []) same)).1
      intro first inLeft second inRight leftRest rightRest _ _ texts
      exact clause_split colonFree (leftAdmitted first inLeft) (rightAdmitted second inRight) texts

end Demand

/-- Query text is unambiguous: over a field table without a colon in its names, such as that of
the film index, two queries without free text are equal exactly when their criteria demand the
same, whatever characters the values hold. -/
theorem Criteria.query_eq_iff_demands_eq :
    FieldTable.films.ColonFree ∧
      ∀ table : FieldTable, table.ColonFree → ∀ left right : Criteria,
        left.text = none → right.text = none → ∀ leftQuery rightQuery : String,
          left.query? table = .ok leftQuery → right.query? table = .ok rightQuery →
            (leftQuery = rightQuery ↔ left.demands = right.demands) := by
  refine ⟨FieldTable.films_colonFree, ?_⟩
  intro table colonFree left right leftBare rightBare leftQuery rightQuery leftDone rightDone
  obtain ⟨rfl, leftAdmitted⟩ := query_eq leftBare leftDone
  obtain ⟨rfl, rightAdmitted⟩ := query_eq rightBare rightDone
  constructor
  · intro same
    exact Demand.eq_of_queryCharacters_eq colonFree leftAdmitted rightAdmitted
      (String.ofList_injective same)
  · intro same
    rw [same]

/-- A value that spells out the end of its clause and another clause is told apart from those two
clauses, beside intervals that differ in the sign of a zero. -/
theorem Criteria.query_eq_iff_demands_eq_films :
    let left := (Criteria.empty.set "genre" ["Drama\x7d @actors:\x7bX"] .any).range "rating"
      (some (.ofNat 7)) (some (.finite (.zero true)))
    let right := ((Criteria.empty.set "genre" ["Drama"] .any).set "actors" ["X"] .all).range "rating"
      (some (.ofNat 7)) (some (.finite (.zero false)))
    let leftQuery := "@genre:\x7bDrama\\\x7d @actors:\\\x7bX\x7d @rating:[-0 7]"
    let rightQuery := "@genre:\x7bDrama\x7d @actors:\x7bX\x7d @rating:[0 7]"
    left.text = none ∧ right.text = none ∧ left.query? FieldTable.films = .ok leftQuery ∧
      right.query? FieldTable.films = .ok rightQuery ∧
      (leftQuery = rightQuery ↔ left.demands = right.demands) := by
  intro left right leftQuery rightQuery
  have leftDone : left.query? FieldTable.films = .ok leftQuery :=
    eq_ok_of_toOption_eq_some (by decide +kernel)
  have rightDone : right.query? FieldTable.films = .ok rightQuery :=
    eq_ok_of_toOption_eq_some (by decide +kernel)
  have leftBare : left.text = none := by decide +kernel
  have rightBare : right.text = none := by decide +kernel
  exact ⟨leftBare, rightBare, leftDone, rightDone, query_eq_iff_demands_eq.2 FieldTable.films
    FieldTable.films_colonFree left right leftBare rightBare leftQuery rightQuery leftDone
    rightDone⟩

end FilmFinder
