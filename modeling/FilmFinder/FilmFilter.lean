import FilmFinder.Criteria
import FilmFinder.Json.Reader
import FilmFinder.Json.Record

/-!
# Film filters

A film filter is the form of an advanced search: a text, comma lists of actors, directors and
genres, and bounds for the rating, the length, the year and the critics' score. It becomes
criteria over the film index, with the attributes in a fixed order.
-/
namespace FilmFinder

/-- The form of an advanced search; nothing is asked for an attribute that is missing. -/
structure FilmFilter where
  /-- The free text. -/
  text : Option String := none
  /-- A comma list of actors. -/
  actors : Option String := none
  /-- The word for how the actors are asked for. -/
  actorOperator : Option String := none
  /-- A comma list of directors. -/
  directors : Option String := none
  /-- A comma list of genres. -/
  genres : Option String := none
  /-- The word for how the genres are asked for. -/
  genreOperator : Option String := none
  /-- The first year of release. -/
  yearFrom : Option Binary64 := none
  /-- The last year of release. -/
  yearTo : Option Binary64 := none
  /-- The lowest rating. -/
  ratingFrom : Option Binary64 := none
  /-- The highest rating. -/
  ratingTo : Option Binary64 := none
  /-- The lowest score of the critics. -/
  scoreFrom : Option Binary64 := none
  /-- The highest score of the critics. -/
  scoreTo : Option Binary64 := none
  /-- The shortest length. -/
  runtimeFrom : Option Binary64 := none
  /-- The greatest length. -/
  runtimeTo : Option Binary64 := none
  deriving DecidableEq

/-- The parts of some characters between commas; there is always one part. -/
def splitCommas : List Char → List (List Char)
  | [] => [[]]
  | ',' :: rest => [] :: splitCommas rest
  | character :: rest =>
    match splitCommas rest with
    | first :: others => (character :: first) :: others
    | [] => [[character]]

/-- The values of a comma list as they are typed; a missing list has none. -/
def commaValues : Option String → List String
  | none => []
  | some list => (splitCommas list.toList).map String.ofList

namespace FilmFilter

/-- The criteria that a filter asks for. Directors are always asked for as any of the values. -/
def criteria (filter : FilmFilter) : Criteria :=
  let start :=
    match filter.text with
    | some words => Criteria.empty.withText words
    | none => Criteria.empty
  start
    |>.set "actors" (commaValues filter.actors) (.ofRequest filter.actorOperator)
    |>.set "director" (commaValues filter.directors) .any
    |>.set "genre" (commaValues filter.genres) (.ofRequest filter.genreOperator)
    |>.range "rating" filter.ratingFrom filter.ratingTo
    |>.range "runtime" filter.runtimeFrom filter.runtimeTo
    |>.range "year" filter.yearFrom filter.yearTo
    |>.range "metascore" filter.scoreFrom filter.scoreTo

/-- The filter that a JSON value writes. -/
def ofJson? (value : Json) : Option FilmFilter := do
  let record ← Record.of? 14 value
  let words (position : Nat) (name : String) : Option (Option String) :=
    record.field? position [name] (Json.nullable? Json.text?) (some none)
  let bound (position : Nat) (name : String) : Option (Option Binary64) :=
    (record.field? position [name] (Json.nullable? Json.finite?) (some none)).map fun given =>
      given.map Binary64.finite
  some
    { text := ← words 0 "genericCriteria"
      actors := ← words 1 "actors"
      actorOperator := ← words 2 "actorOperator"
      directors := ← words 3 "directors"
      genres := ← words 4 "genres"
      genreOperator := ← words 5 "genreOperator"
      yearFrom := ← bound 6 "releaseYearGTE"
      yearTo := ← bound 7 "releaseYearLTE"
      ratingFrom := ← bound 8 "imdbRatingGTE"
      ratingTo := ← bound 9 "imdbRatingLTE"
      scoreFrom := ← bound 10 "metaRatingGTE"
      scoreTo := ← bound 11 "metaRatingLTE"
      runtimeFrom := ← bound 12 "runtimeGTE"
      runtimeTo := ← bound 13 "runtimeLTE" }

/-- The filter that a JSON text writes. -/
def ofText? (text : String) : Option FilmFilter := (Json.read? text).bind ofJson?

end FilmFilter

end FilmFinder
