import FilmFinder.Json.Reader
import FilmFinder.Json.Record
import FilmFinder.Json.Value

/-!
# Films

A film is one record of the catalogue. Its JSON form is written under the short names; it is
read under the short names or the column titles of the catalogue's table, with a default for
every field that is not given.
-/
namespace FilmFinder

/-- One film of the catalogue. -/
structure Film where
  /-- The key of the film, if it has one. -/
  id : Option String
  /-- The place in the catalogue's ranking. -/
  rank : Int64
  /-- The title. -/
  title : String
  /-- The genres. -/
  genres : List String
  /-- What the film is about. -/
  description : String
  /-- The director. -/
  director : String
  /-- The actors. -/
  actors : List String
  /-- The year of release. -/
  year : Int64
  /-- The length in minutes. -/
  runtime : Int64
  /-- The mean rating. -/
  rating : Binary64.Finite
  /-- The number of ratings. -/
  votes : Int64
  /-- The revenue in millions. -/
  revenue : Binary64.Finite
  /-- The score of the critics. -/
  metascore : Int64
  deriving DecidableEq

namespace Film

/-- A film of which nothing is known. -/
def blank : Film :=
  { id := none, rank := 0, title := "", genres := [], description := "", director := "",
    actors := [], year := 0, runtime := 0, rating := .zero false, votes := 0,
    revenue := .zero false, metascore := 0 }

/-- The JSON value of a signed 64-bit integer. -/
def wordJson (value : Int64) : Json := .ofInt value.toInt

/-- The JSON value of a list of texts. -/
def textsJson (texts : List String) : Json := .array (texts.map .ofText)

/-- The members of the JSON object of a film; the key is left out when there is none. -/
def members (film : Film) : List (String × Json) :=
  (film.id.toList.map fun id => ("movieId", .ofText id)) ++
    [("rank", wordJson film.rank), ("title", .ofText film.title), ("genre", textsJson film.genres),
      ("description", .ofText film.description), ("director", .ofText film.director),
      ("actors", textsJson film.actors), ("year", wordJson film.year),
      ("runtime", wordJson film.runtime), ("rating", .ofFinite film.rating),
      ("votes", wordJson film.votes), ("revenue", .ofFinite film.revenue),
      ("metascore", wordJson film.metascore)]

/-- The JSON value of a film. -/
def toJson (film : Film) : Json := .record film.members

/-- The film that a JSON value writes. -/
def ofJson? (value : Json) : Option Film := do
  let record ← Record.of? 13 value
  let texts := Json.list? Json.text?
  let id ← record.field? 0 ["movieId"] (Json.nullable? Json.text?) (some none)
  let rank ← record.field? 1 ["rank", "Rank"] Json.int64? (some 0)
  let title ← record.field? 2 ["title", "Title"] Json.text? (some "")
  let genres ← record.field? 3 ["genre", "Genre"] texts (some [])
  let description ← record.field? 4 ["description", "Description"] Json.text? (some "")
  let director ← record.field? 5 ["director", "Director"] Json.text? (some "")
  let actors ← record.field? 6 ["actors", "Actors"] texts (some [])
  let year ← record.field? 7 ["year", "Year"] Json.int64? (some 0)
  let runtime ← record.field? 8 ["runtime", "Runtime (Minutes)"] Json.int64? (some 0)
  let rating ← record.field? 9 ["rating", "Rating"] Json.finite? (some (.zero false))
  let votes ← record.field? 10 ["votes", "Votes"] Json.int64? (some 0)
  let revenue ← record.field? 11 ["revenue", "Revenue (Millions)"] Json.finite? (some (.zero false))
  let metascore ← record.field? 12 ["metascore", "Metascore"] Json.int64? (some 0)
  some
    { id, rank, title, genres, description, director, actors, year, runtime, rating, votes, revenue,
      metascore }

/-- The film that a JSON text writes. -/
def ofText? (text : String) : Option Film := (Json.read? text).bind ofJson?

/-- The JSON text of a film. -/
def write (film : Film) : String := film.toJson.write

end Film

end FilmFinder
