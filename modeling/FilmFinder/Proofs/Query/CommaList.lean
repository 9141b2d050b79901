import FilmFinder.Proofs.Query.Filter

/-!
# Comma lists of a form

A slot of a form takes values as one text with commas between them. Splitting such a text and
joining values are inverse, but for the list without values, which is joined to the same text as the
list of one empty value. An empty value is blank and dropped with the others, so a form asks for
exactly the values that were joined.
-/
namespace FilmFinder

/-- Characters are split as a list is split at its commas. -/
theorem splitCommas_eq_splitOn (characters : List Char) :
    splitCommas characters = characters.splitOn ',' := by
  induction characters with
  | nil => rfl
  | cons first rest step =>
    have parted : (first :: rest).splitOn ',' =
        if first = ',' then [] :: splitCommas rest
        else (splitCommas rest).modifyHead (first :: ·) := by
      rw [step, List.splitOn, List.splitOnP_cons_eq_if_modifyHead]
      simp only [beq_iff_eq, List.splitOn]
    have present : splitCommas rest ≠ [] := by
      rw [step]
      exact List.splitOnP_ne_nil _ _
    obtain ⟨part, parts, shape⟩ := List.exists_cons_of_ne_nil present
    rw [parted]
    by_cases comma : first = ','
    · rw [if_pos comma, comma]
      rfl
    · rw [if_neg comma, splitCommas, shape]
      · rfl
      · exact comma

/-- Joining the values of a comma list gives the list back. -/
theorem intercalate_commaValues (list : String) :
    ",".intercalate (commaValues (some list)) = list := by
  apply String.toList_injective
  have parts : ((splitCommas list.toList).map String.ofList).map String.toList =
      splitCommas list.toList := by
    simp [Function.comp_def]
  rw [String.toList_intercalate, commaValues, parts, splitCommas_eq_splitOn]
  exact List.intercalate_splitOn ','

/-- Splitting joined values gives the values back when none of them holds a comma and there is
one. -/
theorem commaValues_intercalate {values : List String}
    (free : ∀ value ∈ values, ',' ∉ value.toList) (present : values ≠ []) :
    commaValues (some (",".intercalate values)) = values := by
  have parts : splitCommas (",".intercalate values).toList = values.map String.toList := by
    rw [splitCommas_eq_splitOn, String.toList_intercalate]
    apply List.splitOn_intercalate
    · exact List.forall_mem_map.mpr free
    · exact fun none => present (List.map_eq_nil_iff.mp none)
  rw [commaValues, parts, List.map_map]
  simp [Function.comp_def]

/-- Joined values build the set that the values build. -/
theorem SetCriterion.of?_joined {values : List String}
    (free : ∀ value ∈ values, ',' ∉ value.toList) (field : String) (operator : Operator) :
    of? field (commaValues (some (",".intercalate values))) operator =
      of? field values operator := by
  by_cases present : values = []
  · -- No values are joined to the empty text, which is split into one empty value.
    subst present
    have one : commaValues (some (",".intercalate [])) = [""] := by decide +kernel
    have blank : ∀ value ∈ [""], Text.trim value = "" := by decide +kernel
    have none : ∀ value ∈ ([] : List String), Text.trim value = "" := nofun
    rw [one, of?_of_blank blank, of?_of_blank none]
  · rw [commaValues_intercalate free present]

namespace FilmFilter

/-- The slots of a form that take values as a comma list. -/
inductive ListSlot where
  /-- The actors. -/
  | actors
  /-- The directors. -/
  | directors
  /-- The genres. -/
  | genres

namespace ListSlot

/-- The field that the values of a slot are asked of. -/
def field : ListSlot → String
  | .actors => "actors"
  | .directors => "director"
  | .genres => "genre"

/-- The slot with what is written into it. -/
def entry (list : Option String) : ListSlot → Entry
  | .actors => .actors list
  | .directors => .directors list
  | .genres => .genres list

/-- How the values of a slot are asked for: as the word for the slot says, and any of the
directors. -/
def operator (actorWord genreWord : Option String) : ListSlot → Operator
  | .actors => .ofRequest actorWord
  | .directors => .any
  | .genres => .ofRequest genreWord

end ListSlot

/-- A form in which a comma list is written into one slot and nothing into any other, apart from the
words for how values are asked for. -/
def ofList (slot : ListSlot) (list : String) (actorWord genreWord : Option String) : FilmFilter :=
  fill { actorOperator := actorWord, genreOperator := genreWord } (slot.entry (some list))

/-- A form with one comma list asks for the values of the list. -/
theorem criteria_ofList (slot : ListSlot) (list : String) (actorWord genreWord : Option String) :
    (ofList slot list actorWord genreWord).criteria =
      Criteria.empty.set slot.field (commaValues (some list))
        (slot.operator actorWord genreWord) := by
  cases slot <;> rfl

/-- Comma lists keep values. Values without a comma that are joined and written into a slot of a
form, with any words for how values are asked for, are asked of the field of the slot as they are,
even when there are none, or blank ones. Every text is joined from the values that it is split
into. -/
theorem comma_lists_keep_values :
    (∀ (slot : ListSlot) (values : List String), (∀ value ∈ values, ',' ∉ value.toList) →
        ∀ actorWord genreWord : Option String,
          (ofList slot (",".intercalate values) actorWord genreWord).criteria =
            Criteria.empty.set slot.field values (slot.operator actorWord genreWord)) ∧
      ∀ list : String, ",".intercalate (commaValues (some list)) = list := by
  refine ⟨fun slot values free actorWord genreWord => ?_, intercalate_commaValues⟩
  rw [criteria_ofList, Criteria.set, Criteria.set, SetCriterion.of?_joined free]

/-- Genres that are joined with empty and blank ones, and no actors at all, whatever the words: any
of the two genres that are left is asked for, and nothing of the actors. -/
theorem comma_lists_keep_values_genres :
    let values := ["", " Sci-Fi", "\u3000", "Drama ", ""]
    let genres := (ofList .genres ", Sci-Fi,\u3000,Drama ," none (some " oR ")).criteria
    let actors := (ofList .actors "" (some "not") none).criteria
    (∀ value ∈ values, ',' ∉ value.toList) ∧
      ",".intercalate values = ", Sci-Fi,\u3000,Drama ," ∧
      genres = Criteria.empty.set "genre" values .any ∧
      genres.sets.map (fun criterion =>
        (criterion.field, criterion.operator, criterion.values.items)) =
          [("genre", .any, ["Drama", "Sci-Fi"])] ∧
      actors = Criteria.empty.set "actors" [] .none ∧ actors = Criteria.empty := by
  intro values genres actors
  have free : ∀ value ∈ values, ',' ∉ value.toList := by decide +kernel
  have joined : ",".intercalate values = ", Sci-Fi,\u3000,Drama ," := by decide +kernel
  have any : Operator.ofRequest (some " oR ") = .any := by decide +kernel
  have none : Operator.ofRequest (some "not") = .none := by decide +kernel
  obtain ⟨kept, -⟩ := comma_lists_keep_values
  have genresKept := kept .genres values free .none (some " oR ")
  have actorsKept := kept .actors [] (fun _ inside => nomatch inside) (some "not") .none
  rw [joined, ListSlot.operator, any] at genresKept
  rw [ListSlot.operator, none] at actorsKept
  have shown : genres.sets.map (fun criterion =>
      (criterion.field, criterion.operator, criterion.values.items)) =
        [("genre", .any, ["Drama", "Sci-Fi"])] := by decide +kernel
  have silent : actors = Criteria.empty := by decide +kernel
  exact ⟨free, joined, genresKept, shown, actorsKept, silent⟩

end FilmFilter

end FilmFinder
