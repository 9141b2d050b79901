import FilmFinder.Film
import FilmFinder.Proofs.Json.Record
import FilmFinder.Proofs.Json.RoundTrip
import FilmFinder.Proofs.Service.Search
import FilmFinder.Proofs.Wire.Layout
import Mathlib.Data.List.Nodup

/-!
# Films as documents

A film is read back from members that write it: some of the members of its JSON object, in any
order and each key once, where those left out are the ones of the film of which nothing is known.
The text of a film writes all of them, so every film is read back from its text as long as its
numbers are.
-/
namespace FilmFinder

/-- A finite number is read back from its JSON text. -/
def Binary64.Finite.ReadsBack (value : Binary64.Finite) : Prop :=
  (Json.read? (Json.ofFinite value).write).bind Json.finite? = some value

instance (value : Binary64.Finite) : Decidable value.ReadsBack :=
  inferInstanceAs (Decidable (_ = _))

namespace Json

/-- A number that is read back from its text is read back from its JSON value. -/
theorem finite?_of_readsBack {value : Binary64.Finite} (readsBack : value.ReadsBack) :
    (ofFinite value).finite? = some value := by
  unfold Binary64.Finite.ReadsBack at readsBack
  rw [(legible_ofFinite value).read?_write] at readsBack
  exact readsBack

/-- A list of texts is read back. -/
theorem list?_texts (texts : List String) :
    list? text? (.array (texts.map ofText)) = some texts := by
  change (texts.map ofText).mapM text? = some texts
  induction texts with
  | nil => rfl
  | cons text texts step =>
    rw [List.map_cons, List.mapM_cons, step]
    rfl

/-- A value is read as a list of texts exactly when it is an array of their string literals. -/
theorem list?_text?_eq_some_iff {value : Json} {texts : List String} :
    list? text? value = some texts ↔ value = .array (texts.map .ofText) := by
  constructor
  · intro read
    cases value with
    | array items =>
      rw [Json.array.injEq]
      change items.mapM text? = some texts at read
      induction items generalizing texts with
      | nil =>
        obtain rfl := Option.some.inj read
        rfl
      | cons item items step =>
        rw [List.mapM_cons] at read
        obtain ⟨text, itemRead, read⟩ := Option.bind_eq_some_iff.mp read
        obtain ⟨rest, restRead, read⟩ := Option.bind_eq_some_iff.mp read
        obtain rfl := Option.some.inj read
        rw [List.map_cons, text?_eq_some_iff.mp itemRead, step restRead]
    | null | bool | number | string | object => contradiction
  · rintro rfl
    exact list?_texts texts

end Json

namespace Film

/-- The numbers of a film are read back from their JSON text. -/
structure Readable (film : Film) : Prop where
  /-- The rating is. -/
  rating : film.rating.ReadsBack
  /-- The revenue is. -/
  revenue : film.revenue.ReadsBack

/-- The names under which films are written. -/
def shortNames : List String :=
  ["movieId", "rank", "title", "genre", "description", "director", "actors", "year", "runtime",
    "rating", "votes", "revenue", "metascore"]

/-- The keys of a film are the short names, without the first one when the film has no key. -/
theorem keys_members (film : Film) :
    film.members.map Prod.fst = if film.id.isSome then shortNames else shortNames.tail := by
  unfold members
  cases film.id <;> rfl

/-- Every key of a film is a short name. -/
theorem key_mem_shortNames {film : Film} {member : String × Json}
    (inside : member ∈ film.members) : member.1 ∈ shortNames := by
  have listed : member.1 ∈ film.members.map Prod.fst := List.mem_map_of_mem inside
  rw [keys_members] at listed
  split at listed
  · exact listed
  · exact List.mem_of_mem_tail listed

/-- No key of a film is written twice. -/
theorem distinct_members (film : Film) : (film.members.map Prod.fst).Nodup := by
  rw [keys_members]
  split <;> decide

/-- A key of a film has one value. -/
theorem member_eq {film : Film} {left right : String × Json} (leftInside : left ∈ film.members)
    (rightInside : right ∈ film.members) (same : left.1 = right.1) : left = right :=
  List.inj_on_of_nodup_map film.distinct_members leftInside rightInside same

/-- Members that write a film: members of its JSON object, none twice, where those left out are
the ones of the film of which nothing is known. -/
structure Writes (film : Film) (members : List (String × Json)) : Prop where
  /-- No key is written twice. -/
  distinct : (members.map Prod.fst).Nodup
  /-- Every member is one of the film. -/
  inside : ∀ member ∈ members, member ∈ film.members
  /-- A member of the film that is left out is what a reader takes for granted. -/
  complete : ∀ member ∈ film.members, member ∈ members ∨ member ∈ blank.members

/-- The members of its JSON object write a film. -/
theorem writes_members (film : Film) : film.Writes film.members :=
  ⟨film.distinct_members, fun _ inside => inside, fun _ => .inl⟩

variable {film : Film} {members : List (String × Json)} {α : Type}

/-- A field is read from members that write a film, whether its member is among them or left
out. -/
theorem field?_of_writes (writes : film.Writes members) (position : Nat) {name column : String}
    (get : Film → α) (encode : α → Json) {decode : Json → Option α}
    (held : ∀ film : Film, (name, encode (get film)) ∈ film.members)
    (foreign : column ∉ shortNames) (decoded : decode (encode (get film)) = some (get film))
    (granted : decode (encode (get blank)) = some (get blank)) :
    (Record.named members).field? position [name, column] decode (some (get blank)) =
      some (get film) := by
  have only : ∀ member ∈ members, member.1 ∈ [name, column] → member.1 = name := by
    intro member inside named
    have short := key_mem_shortNames (writes.inside member inside)
    rcases List.mem_cons.mp named with same | other
    · exact same
    · rw [List.mem_singleton.mp other] at short
      exact absurd short foreign
  by_cases present : (name, encode (get film)) ∈ members
  · have given := Record.valuesOf_of_mem writes.distinct present (.head _) only
    rw [Record.field?_of_value position decode _ given, decoded]
  · have given : Record.valuesOf [name, column] members = [] := by
      refine Record.valuesOf_of_absent fun member inside named => present ?_
      have same := member_eq (writes.inside member inside) (held film) (only member inside named)
      rwa [same] at inside
    have missing := (writes.complete _ (held film)).resolve_left present
    have same : encode (get film) = encode (get blank) :=
      (Prod.mk.inj (member_eq missing (held blank) rfl)).2
    rw [Record.field?_of_absent position decode _ given, ← granted, ← same, decoded]

/-- The key of a film is read from members that write it, if it has one. -/
theorem id_of_writes (writes : film.Writes members) :
    (Record.named members).field? 0 ["movieId"] (Json.nullable? Json.text?) (some none) =
      some film.id := by
  have only : ∀ member ∈ members, member.1 ∈ ["movieId"] → member.1 = "movieId" :=
    fun _ _ => List.eq_of_mem_singleton
  cases known : film.id with
  | none =>
    have given : Record.valuesOf ["movieId"] members = [] := by
      refine Record.valuesOf_of_absent fun member inside memberNamed => ?_
      have listed : member.1 ∈ film.members.map Prod.fst :=
        List.mem_map_of_mem (writes.inside member inside)
      rw [keys_members, known, only member inside memberNamed] at listed
      exact absurd listed (by decide)
    exact Record.field?_of_absent 0 _ _ given
  | some id =>
    have held : ("movieId", Json.ofText id) ∈ film.members := by simp [Film.members, known]
    have present : ("movieId", Json.ofText id) ∈ members := by
      refine (writes.complete _ held).resolve_right fun granted => ?_
      have listed : "movieId" ∈ blank.members.map Prod.fst :=
        List.mem_map_of_mem (f := Prod.fst) granted
      exact absurd listed (by decide)
    have given := Record.valuesOf_of_mem writes.distinct present (.head _) only
    rw [Record.field?_of_value 0 _ _ given]
    rfl

/-- The numbers of the film of which nothing is known are read back. -/
theorem readable_blank : blank.Readable := by
  have zero : (Binary64.Finite.zero false).ReadsBack := by decide +kernel
  exact ⟨zero, zero⟩

/-- The fields of a film are what a record gives for them. -/
structure ReadFrom (film : Film) (record : Record) : Prop where
  /-- The key is read. -/
  id : record.field? 0 ["movieId"] (Json.nullable? Json.text?) (some none) = some film.id
  /-- The rank is read. -/
  rank : record.field? 1 ["rank", "Rank"] Json.int64? (some 0) = some film.rank
  /-- The title is read. -/
  title : record.field? 2 ["title", "Title"] Json.text? (some "") = some film.title
  /-- The genres are read. -/
  genres : record.field? 3 ["genre", "Genre"] (Json.list? Json.text?) (some []) =
    some film.genres
  /-- The description is read. -/
  description : record.field? 4 ["description", "Description"] Json.text? (some "") =
    some film.description
  /-- The director is read. -/
  director : record.field? 5 ["director", "Director"] Json.text? (some "") = some film.director
  /-- The actors are read. -/
  actors : record.field? 6 ["actors", "Actors"] (Json.list? Json.text?) (some []) =
    some film.actors
  /-- The year is read. -/
  year : record.field? 7 ["year", "Year"] Json.int64? (some 0) = some film.year
  /-- The length is read. -/
  runtime : record.field? 8 ["runtime", "Runtime (Minutes)"] Json.int64? (some 0) =
    some film.runtime
  /-- The rating is read. -/
  rating : record.field? 9 ["rating", "Rating"] Json.finite? (some (.zero false)) =
    some film.rating
  /-- The number of ratings is read. -/
  votes : record.field? 10 ["votes", "Votes"] Json.int64? (some 0) = some film.votes
  /-- The revenue is read. -/
  revenue : record.field? 11 ["revenue", "Revenue (Millions)"] Json.finite?
    (some (.zero false)) = some film.revenue
  /-- The score is read. -/
  metascore : record.field? 12 ["metascore", "Metascore"] Json.int64? (some 0) =
    some film.metascore

/-- A film is read from an object exactly when each of its fields is. -/
theorem ofJson?_eq_some_iff :
    ofJson? (.record members) = some film ↔ film.ReadFrom (.named members) := by
  unfold ofJson?
  rw [Record.of?_record]
  constructor
  · intro read
    obtain ⟨record, named, read⟩ := Option.bind_eq_some_iff.mp read
    obtain rfl := Option.some.inj named
    obtain ⟨id, idRead, read⟩ := Option.bind_eq_some_iff.mp read
    obtain ⟨rank, rankRead, read⟩ := Option.bind_eq_some_iff.mp read
    obtain ⟨title, titleRead, read⟩ := Option.bind_eq_some_iff.mp read
    obtain ⟨genres, genresRead, read⟩ := Option.bind_eq_some_iff.mp read
    obtain ⟨description, descriptionRead, read⟩ := Option.bind_eq_some_iff.mp read
    obtain ⟨director, directorRead, read⟩ := Option.bind_eq_some_iff.mp read
    obtain ⟨actors, actorsRead, read⟩ := Option.bind_eq_some_iff.mp read
    obtain ⟨year, yearRead, read⟩ := Option.bind_eq_some_iff.mp read
    obtain ⟨runtime, runtimeRead, read⟩ := Option.bind_eq_some_iff.mp read
    obtain ⟨rating, ratingRead, read⟩ := Option.bind_eq_some_iff.mp read
    obtain ⟨votes, votesRead, read⟩ := Option.bind_eq_some_iff.mp read
    obtain ⟨revenue, revenueRead, read⟩ := Option.bind_eq_some_iff.mp read
    obtain ⟨metascore, metascoreRead, read⟩ := Option.bind_eq_some_iff.mp read
    cases Option.some.inj read
    exact ⟨idRead, rankRead, titleRead, genresRead, descriptionRead, directorRead, actorsRead,
      yearRead, runtimeRead, ratingRead, votesRead, revenueRead, metascoreRead⟩
  · intro fields
    simp only [bind, Option.bind, fields.id, fields.rank, fields.title, fields.genres,
      fields.description, fields.director, fields.actors, fields.year, fields.runtime,
      fields.rating, fields.votes, fields.revenue, fields.metascore]

/-- A film is read back from members that write it. -/
theorem ofJson?_of_writes (readable : film.Readable) (writes : film.Writes members) :
    ofJson? (.record members) = some film :=
  ofJson?_eq_some_iff.mpr
    { id := id_of_writes writes
      rank := field?_of_writes writes 1 Film.rank wordJson (by simp [Film.members]) (by decide)
        (Json.int64?_ofInt _) (Json.int64?_ofInt _)
      title := field?_of_writes writes 2 Film.title Json.ofText (by simp [Film.members])
        (by decide) rfl rfl
      genres := field?_of_writes writes 3 Film.genres textsJson (by simp [Film.members])
        (by decide) (Json.list?_texts _) (Json.list?_texts _)
      description := field?_of_writes writes 4 Film.description Json.ofText
        (by simp [Film.members]) (by decide) rfl rfl
      director := field?_of_writes writes 5 Film.director Json.ofText (by simp [Film.members])
        (by decide) rfl rfl
      actors := field?_of_writes writes 6 Film.actors textsJson (by simp [Film.members])
        (by decide) (Json.list?_texts _) (Json.list?_texts _)
      year := field?_of_writes writes 7 Film.year wordJson (by simp [Film.members]) (by decide)
        (Json.int64?_ofInt _) (Json.int64?_ofInt _)
      runtime := field?_of_writes writes 8 Film.runtime wordJson (by simp [Film.members])
        (by decide) (Json.int64?_ofInt _) (Json.int64?_ofInt _)
      rating := field?_of_writes writes 9 Film.rating Json.ofFinite (by simp [Film.members])
        (by decide) (Json.finite?_of_readsBack readable.rating)
        (Json.finite?_of_readsBack readable_blank.rating)
      votes := field?_of_writes writes 10 Film.votes wordJson (by simp [Film.members])
        (by decide) (Json.int64?_ofInt _) (Json.int64?_ofInt _)
      revenue := field?_of_writes writes 11 Film.revenue Json.ofFinite (by simp [Film.members])
        (by decide) (Json.finite?_of_readsBack readable.revenue)
        (Json.finite?_of_readsBack readable_blank.revenue)
      metascore := field?_of_writes writes 12 Film.metascore wordJson (by simp [Film.members])
        (by decide) (Json.int64?_ofInt _) (Json.int64?_ofInt _) }

/-- Every member of a film has a legible value. -/
theorem legible_members (film : Film) : ∀ member ∈ film.members, member.2.Legible := by
  have texts (texts : List String) : (textsJson texts).Legible := by
    refine .array fun item inside => ?_
    obtain ⟨text, -, rfl⟩ := List.mem_map.mp inside
    exact .string text
  have key : ∀ member ∈ film.id.toList.map fun id => ("movieId", Json.ofText id),
      member.2.Legible := by
    intro member inside
    obtain ⟨id, -, rfl⟩ := List.mem_map.mp inside
    exact .string id
  unfold members
  simp only [List.forall_mem_append, List.forall_mem_cons]
  exact ⟨key, Json.legible_ofInt _, .string _, texts _, .string _, .string _, texts _,
    Json.legible_ofInt _, Json.legible_ofInt _, Json.legible_ofFinite _, Json.legible_ofInt _,
    Json.legible_ofFinite _, Json.legible_ofInt _, fun _ inside => nomatch inside⟩

/-- A film is read back from its text. -/
theorem ofText?_write (readable : film.Readable) : ofText? film.write = some film := by
  have legible : film.toJson.Legible := .object film.legible_members
  unfold ofText? write
  rw [legible.read?_write]
  exact ofJson?_of_writes readable film.writes_members

end Film

namespace Reply

/-- The reply of an index of documents: a count, then each key with its document. -/
def ofDocuments (count : Int64) (documents : List (String × String)) : WireValue :=
  .array (.int count :: documents.flatMap fun document =>
    [.bulk document.1.toUTF8, .array [.bulk documentName.toUTF8, .bulk document.2.toUTF8]])

/-- The reply of an index of documents is laid out as one hit for each document. -/
theorem layout_ofDocuments {count : Int64} (natural : 0 ≤ count.toInt)
    (documents : List (String × String)) :
    Layout (ofDocuments count documents) count.toInt.toNat
      (documents.map fun document => (document.1, some document.2)) := by
  refine .reply natural ?_
  induction documents with
  | nil => exact .none
  | cons document documents step =>
    have read : Attributes [(.bulk documentName.toUTF8, .bulk document.2.toUTF8)]
        (some document.2) := .document (.bulk _) (.bulk _)
    exact .hit (.bulk document.1) read step

/-- Hits that carry documents are the keys with the documents as payloads. -/
theorem eq_of_carries {hits : List Hit} {documents : List (String × String)}
    (carried : List.Forall₂ Carries hits
      (documents.map fun document => (document.1, some document.2))) :
    hits = documents.map fun document => ⟨document.1, document.2⟩ := by
  induction documents generalizing hits with
  | nil => exact List.forall₂_nil_right_iff.mp carried
  | cons document documents step =>
    obtain ⟨hit, rest, first, others, rfl⟩ := List.forall₂_cons_right_iff.mp carried
    obtain ⟨key, payload⟩ := hit
    obtain rfl : key = document.1 := first.key_eq
    obtain rfl : payload = document.2 := first.payload_eq _ rfl
    rw [List.map_cons, step others]

end Reply

/-- The reply of an index of documents is read as one hit for each document, in order. -/
theorem Answer.read_ofDocuments (table : FieldTable) {count : Int64} (natural : 0 ≤ count.toInt)
    (documents : List (String × String)) :
    read table (Reply.ofDocuments count documents) =
      .ok ⟨documents.map fun document => ⟨document.1, document.2⟩,
        Nat.max count.toInt.toNat documents.length⟩ := by
  obtain ⟨answer, done, carried, counted⟩ :=
    Reply.ofReply?_of_layout table (Reply.layout_ofDocuments natural documents)
  have hits := Reply.eq_of_carries carried
  rw [hits, List.length_map] at counted
  rw [read_eq_ok_iff.mpr done, ← hits, ← counted]

/-- Films go through an index of documents unchanged: the reply that holds their texts under some
keys is read over any field table as hits with those keys, and the payloads of the hits are read as
the same films in the same order, as long as their numbers are read back from their JSON text. The
answer counts what the reply counts, or the films if these are more. -/
theorem Film.documents_round_trip (table : FieldTable) {count : Int64} (natural : 0 ≤ count.toInt)
    (films : List (String × Film)) (readable : ∀ entry ∈ films, entry.2.Readable) :
    ∃ answer,
      Answer.read table
          (Reply.ofDocuments count (films.map fun entry => (entry.1, entry.2.write))) =
        .ok answer ∧
      answer.hits.map Hit.key = films.map Prod.fst ∧
      decodeHits Film.ofText? answer.hits = .ok (films.map Prod.snd) ∧
      answer.total = Nat.max count.toInt.toNat films.length := by
  refine ⟨_, Answer.read_ofDocuments table natural _, ?_, ?_, ?_⟩
  · simp only [List.map_map, Function.comp_def]
  · refine decodeHits_of_decoded ?_
    simp only [List.map_map, Function.comp_def]
    exact List.map_congr_left fun entry inside => Film.ofText?_write (readable entry inside)
  · rw [List.length_map]

/-- Two films go through an index of documents: one without a key, with a negative zero, the
extreme integers and a title of quotes, controls and characters beyond 16 bits, and one with a key
and a rating of 8.1. -/
theorem Film.documents_round_trip_two :
    let first : Film := { blank with
      rank := Int64.minValue, title := "\"\\\n\x00\x1b🎬", actors := ["", "Zoë"],
      rating := .zero true, votes := Int64.maxValue }
    let second : Film := { blank with
      id := some "01H8X", genres := ["Action"],
      rating := ⟨false, 4559894622712627, 1025, by decide⟩ }
    let films := [("movie:1", first), ("movie:2", second)]
    (∀ entry ∈ films, entry.2.Readable) ∧
      ∃ answer,
        Answer.read FieldTable.films
            (Reply.ofDocuments 1 (films.map fun entry => (entry.1, entry.2.write))) =
          .ok answer ∧
        answer.hits.map Hit.key = films.map Prod.fst ∧
        decodeHits Film.ofText? answer.hits = .ok (films.map Prod.snd) ∧
        answer.total = Nat.max (1 : Int64).toInt.toNat films.length := by
  intro first second films
  have readable : ∀ entry ∈ films, entry.2.Readable :=
    List.forall_mem_cons.mpr ⟨⟨by decide +kernel, by decide +kernel⟩,
      List.forall_mem_singleton.mpr ⟨by decide +kernel, by decide +kernel⟩⟩
  exact ⟨readable, documents_round_trip FieldTable.films (by decide) films readable⟩

end FilmFinder
