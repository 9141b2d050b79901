import FilmFinder.Proofs.Film.Document
import FilmFinder.Proofs.Wire.Attributes

/-!
# Films as flat records

In an index of flat records a film is held as attributes: texts as they are and numbers as JSON
text; its lists have no such form. Which attributes are read as numbers is up to the field table, so
a film is read back from its attributes when the table declares the numbers of films numeric, and
their texts not. The table of the film index does not declare the rank.
-/
namespace FilmFinder

/-- Under a name that is declared numeric the text of a finite number is the number. -/
theorem Reply.attributeJson_ofFinite {table : FieldTable} {name : String}
    (numeric : table.isNumeric name = true) {value : Binary64.Finite}
    (readsBack : value.ReadsBack) :
    attributeJson table name (Json.ofFinite value).write = .ofFinite value := by
  refine (attributeJson_of_numeral numeric
    (NumberLayout.json.isDigit_of_mem_fraction value)).trans ?_
  have read : (NumberLayout.json.numeral value).scaled? = some value :=
    Json.finite?_of_readsBack readsBack
  unfold usualNumeral?
  rw [NumberLayout.json_integer?, read]
  rfl

namespace Film

/-- The attributes that hold a film in an index of flat records. -/
def attributes (film : Film) : List (String × String) :=
  (film.id.toList.map fun id => ("movieId", id)) ++
    [("rank", (wordJson film.rank).write), ("title", film.title),
      ("description", film.description), ("director", film.director),
      ("year", (wordJson film.year).write), ("runtime", (wordJson film.runtime).write),
      ("rating", (Json.ofFinite film.rating).write), ("votes", (wordJson film.votes).write),
      ("revenue", (Json.ofFinite film.revenue).write),
      ("metascore", (wordJson film.metascore).write)]

/-- The names of attributes that hold texts. -/
def textNames : List String := ["movieId", "title", "description", "director"]

/-- The names of attributes that hold numbers. -/
def numberNames : List String :=
  ["rank", "year", "runtime", "rating", "votes", "revenue", "metascore"]

/-- A field table types a name as films do: as numeric when films hold a number under it. -/
abbrev TypedBy (table : FieldTable) (name : String) : Prop :=
  table.isNumeric name = decide (name ∈ numberNames)

/-- A film that an index of flat records can hold has no genres and no actors. -/
structure Flat (film : Film) : Prop where
  /-- There are no genres. -/
  genres : film.genres = []
  /-- There are no actors. -/
  actors : film.actors = []

variable {table : FieldTable} {film : Film} {pairs : List (String × String)}

/-- The names of the attributes of a film are those of its members that are no lists. -/
theorem names_attributes (film : Film) :
    film.attributes.map Prod.fst =
      (film.members.map Prod.fst).filter fun name => name ∉ ["genre", "actors"] := by
  unfold attributes members
  cases film.id <;> rfl

/-- No attribute of a film is held twice. -/
theorem distinct_attributes (film : Film) : (film.attributes.map Prod.fst).Nodup := by
  rw [names_attributes]
  exact film.distinct_members.filter _

/-- Every name of an attribute holds a text or a number. -/
theorem name_mem_of_attribute {pair : String × String} (inside : pair ∈ film.attributes) :
    pair.1 ∈ textNames ++ numberNames := by
  have listed : pair.1 ∈ film.attributes.map Prod.fst := List.mem_map_of_mem inside
  rw [names_attributes, List.mem_filter] at listed
  obtain ⟨member, held, named⟩ := List.mem_map.mp listed.1
  have short := named ▸ key_mem_shortNames held
  have each : ∀ name ∈ shortNames, decide (name ∉ ["genre", "actors"]) = true →
      name ∈ textNames ++ numberNames := by decide
  exact each pair.1 short listed.2

/-- A text becomes a string when the table types its name as films do. -/
theorem memberOf_text {name value : String} (textual : name ∉ numberNames)
    (typed : TypedBy table name) : Reply.memberOf table (name, value) = (name, .ofText value) := by
  have untyped : table.isNumeric name = false := typed.trans (decide_eq_false textual)
  rw [Reply.memberOf, Reply.attributeJson_of_text untyped]

/-- An integer becomes a number when the table types its name as films do. -/
theorem memberOf_word {name : String} {value : Int64} (numeric : name ∈ numberNames)
    (typed : TypedBy table name) :
    Reply.memberOf table (name, (wordJson value).write) = (name, wordJson value) := by
  have declared : table.isNumeric name = true := typed.trans (decide_eq_true numeric)
  rw [Reply.memberOf, wordJson, Reply.attributeJson_ofInt declared]

/-- So does a finite number that is read back from its JSON text. -/
theorem memberOf_real {name : String} {value : Binary64.Finite} (readsBack : value.ReadsBack)
    (numeric : name ∈ numberNames) (typed : TypedBy table name) :
    Reply.memberOf table (name, (Json.ofFinite value).write) = (name, .ofFinite value) := by
  have declared : table.isNumeric name = true := typed.trans (decide_eq_true numeric)
  rw [Reply.memberOf, Reply.attributeJson_ofFinite declared readsBack]

/-- Every attribute becomes a member of its film when the table types its name as films do. -/
theorem memberOf_mem (readable : film.Readable) :
    ∀ pair ∈ film.attributes, TypedBy table pair.1 → Reply.memberOf table pair ∈ film.members := by
  have text {name value : String} (textual : name ∉ numberNames)
      (held : (name, Json.ofText value) ∈ film.members) (typed : TypedBy table name) :
      Reply.memberOf table (name, value) ∈ film.members :=
    memberOf_text textual typed ▸ held
  have word {name : String} {value : Int64} (numeric : name ∈ numberNames)
      (held : (name, wordJson value) ∈ film.members) (typed : TypedBy table name) :
      Reply.memberOf table (name, (wordJson value).write) ∈ film.members :=
    memberOf_word numeric typed ▸ held
  have real {name : String} {value : Binary64.Finite} (readsBack : value.ReadsBack)
      (numeric : name ∈ numberNames) (held : (name, Json.ofFinite value) ∈ film.members)
      (typed : TypedBy table name) :
      Reply.memberOf table (name, (Json.ofFinite value).write) ∈ film.members :=
    memberOf_real readsBack numeric typed ▸ held
  have id : ∀ pair ∈ film.id.toList.map fun id => ("movieId", id), TypedBy table pair.1 →
      Reply.memberOf table pair ∈ film.members := by
    intro pair inside
    obtain ⟨id, known, rfl⟩ := List.mem_map.mp inside
    have held : ("movieId", Json.ofText id) ∈ film.members :=
      List.mem_append_left _ (List.mem_map_of_mem known)
    exact text (show "movieId" ∉ numberNames by decide) held
  unfold attributes
  simp only [List.forall_mem_append, List.forall_mem_cons]
  exact ⟨id, word (by decide) (by simp [members]), text (by decide) (by simp [members]),
    text (by decide) (by simp [members]), text (by decide) (by simp [members]),
    word (by decide) (by simp [members]), word (by decide) (by simp [members]),
    real readable.rating (by decide) (by simp [members]), word (by decide) (by simp [members]),
    real readable.revenue (by decide) (by simp [members]), word (by decide) (by simp [members]),
    fun _ inside => nomatch inside⟩

/-- Attributes that hold a film: attributes of its own, none twice, where those left out are the
ones of the film of which nothing is known. -/
structure Holds (film : Film) (pairs : List (String × String)) : Prop where
  /-- No name is given twice. -/
  distinct : (pairs.map Prod.fst).Nodup
  /-- Every attribute is one of the film. -/
  inside : ∀ pair ∈ pairs, pair ∈ film.attributes
  /-- A member of the film without an attribute is what a reader takes for granted. -/
  complete : ∀ member ∈ film.members, member.1 ∈ pairs.map Prod.fst ∨ member ∈ blank.members

/-- Attributes of a film in any order hold it without those whose members a reader takes for
granted. -/
theorem holds_of_perm (left : List String)
    (granted : ∀ member ∈ film.members, member.1 ∈ ["genre", "actors"] ++ left →
      member ∈ blank.members)
    (order : pairs.Perm (film.attributes.filter fun pair => pair.1 ∉ left)) : film.Holds pairs where
  distinct := by
    refine (order.map Prod.fst).symm.nodup ?_
    exact (List.filter_sublist.map Prod.fst).nodup film.distinct_attributes
  inside := fun _ inside => (List.mem_filter.mp (order.mem_iff.mp inside)).1
  complete := by
    intro member inside
    by_cases taken : member.1 ∈ ["genre", "actors"] ++ left
    · exact .inr (granted member inside taken)
    · rw [List.mem_append, not_or] at taken
      have listed : member.1 ∈ film.attributes.map Prod.fst := by
        rw [names_attributes]
        exact List.mem_filter.mpr ⟨List.mem_map_of_mem inside, by simpa using taken.1⟩
      obtain ⟨pair, held, named⟩ := List.mem_map.mp listed
      have kept : pair ∈ film.attributes.filter fun pair => pair.1 ∉ left :=
        List.mem_filter.mpr ⟨held, by simpa [named] using taken.2⟩
      exact .inl (named ▸ List.mem_map_of_mem (order.mem_iff.mpr kept))

/-- The document that attributes of a film are folded into writes the film when the table types
their names as films do. -/
theorem writes_of_holds (holds : film.Holds pairs) (readable : film.Readable)
    (typed : ∀ pair ∈ pairs, TypedBy table pair.1) :
    film.Writes (Reply.foldedMembers table pairs) := by
  have own : ∀ pair ∈ pairs, Reply.memberOf table pair ∈ film.members := fun pair inside =>
    memberOf_mem readable pair (holds.inside pair inside) (typed pair inside)
  refine ⟨Reply.distinct_foldedMembers table pairs, ?_, ?_⟩
  · intro member inside
    obtain ⟨pair, held, rfl⟩ := (Reply.mem_foldedMembers_iff holds.distinct).mp inside
    exact own pair held
  · intro member inside
    refine (holds.complete member inside).imp_left fun listed => ?_
    obtain ⟨pair, held, named⟩ := List.mem_map.mp listed
    have same : Reply.memberOf table pair = member := member_eq (own pair held) inside named
    exact (Reply.mem_foldedMembers_iff holds.distinct).mpr ⟨pair, held, same⟩

/-- A film is read back from the document that its attributes are folded into when the table types
their names as films do. -/
theorem ofText?_folded (holds : film.Holds pairs) (readable : film.Readable)
    (typed : ∀ pair ∈ pairs, TypedBy table pair.1) :
    ofText? (Reply.folded table pairs).write = some film := by
  unfold ofText?
  rw [(Reply.legible_folded holds.distinct).read?_write]
  exact ofJson?_of_writes readable (writes_of_holds holds readable typed)

/-- A field that a member is given for is read from that member. -/
theorem field?_of_member {members : List (String × Json)}
    (distinct : (members.map Prod.fst).Nodup) (short : ∀ member ∈ members, member.1 ∈ shortNames)
    {name : String} {columns : List String} {value : Json} (inside : (name, value) ∈ members)
    (foreign : ∀ column ∈ columns, column ∉ shortNames) {α : Type} (position : Nat)
    (decode : Json → Option α) (absent : Option α) :
    (Record.named members).field? position (name :: columns) decode absent = decode value := by
  refine Record.field?_of_value position decode absent
    (Record.valuesOf_of_mem distinct inside (.head _) fun member held named => ?_)
  rcases List.mem_cons.mp named with same | other
  · exact same
  · exact absurd (short member held) (foreign member.1 other)

/-- No film is read from a document with a text where films hold a number. -/
theorem ofJson?_of_text {members : List (String × Json)}
    (distinct : (members.map Prod.fst).Nodup) (short : ∀ member ∈ members, member.1 ∈ shortNames)
    {name text : String} (numeric : name ∈ numberNames) (inside : (name, .ofText text) ∈ members) :
    ofJson? (.record members) = none := by
  refine Option.eq_none_iff_forall_ne_some.mpr fun film read => ?_
  have fields := ofJson?_eq_some_iff.mp read
  have given {column : String} (foreign : ∀ other ∈ [column], other ∉ shortNames) {α : Type}
      {position : Nat} {decode : Json → Option α} {absent : Option α} {value : α}
      (field : (Record.named members).field? position [name, column] decode absent = some value) :
      decode (.ofText text) = some value :=
    (field?_of_member distinct short inside foreign position decode absent).symm.trans field
  simp only [numberNames, List.mem_cons, List.not_mem_nil, or_false] at numeric
  rcases numeric with rfl | rfl | rfl | rfl | rfl | rfl | rfl
  · exact nomatch given (by decide) fields.rank
  · exact nomatch given (by decide) fields.year
  · exact nomatch given (by decide) fields.runtime
  · exact nomatch given (by decide) fields.rating
  · exact nomatch given (by decide) fields.votes
  · exact nomatch given (by decide) fields.revenue
  · exact nomatch given (by decide) fields.metascore

/-- No film is read from a document with a number where films hold a text. -/
theorem ofJson?_of_number {members : List (String × Json)}
    (distinct : (members.map Prod.fst).Nodup) (short : ∀ member ∈ members, member.1 ∈ shortNames)
    {name : String} {numeral : Numeral} (textual : name ∈ textNames)
    (inside : (name, .number numeral) ∈ members) : ofJson? (.record members) = none := by
  refine Option.eq_none_iff_forall_ne_some.mpr fun film read => ?_
  have fields := ofJson?_eq_some_iff.mp read
  have given {columns : List String} (foreign : ∀ column ∈ columns, column ∉ shortNames)
      {α : Type} {position : Nat} {decode : Json → Option α} {absent : Option α} {value : α}
      (field : (Record.named members).field? position (name :: columns) decode absent =
        some value) : decode (.number numeral) = some value :=
    (field?_of_member distinct short inside foreign position decode absent).symm.trans field
  simp only [textNames, List.mem_cons, List.not_mem_nil, or_false] at textual
  rcases textual with rfl | rfl | rfl | rfl
  · exact nomatch given (by decide) fields.id
  · exact nomatch given (by decide) fields.title
  · exact nomatch given (by decide) fields.description
  · exact nomatch given (by decide) fields.director

/-- An attribute that becomes a member from which no field of a film is read: a number under a name
that is not declared numeric, or digits under the name of a text that is. -/
inductive Mistyped (table : FieldTable) : String × String → Prop
  /-- The number is taken for a text. -/
  | number {name text : String} (numeric : name ∈ numberNames)
    (untyped : table.isNumeric name = false) : Mistyped table (name, text)
  /-- The text is taken for a number. -/
  | text {name : String} {value : Int64} (textual : name ∈ textNames)
    (typed : table.isNumeric name = true) : Mistyped table (name, (wordJson value).write)

/-- No film is read from the document that attributes are folded into when one of them is
mistyped. -/
theorem ofText?_folded_of_mistyped (distinct : (pairs.map Prod.fst).Nodup)
    (short : ∀ pair ∈ pairs, pair.1 ∈ shortNames) {pair : String × String}
    (inside : pair ∈ pairs) (mistyped : Mistyped table pair) :
    ofText? (Reply.folded table pairs).write = none := by
  have shortMembers : ∀ member ∈ Reply.foldedMembers table pairs, member.1 ∈ shortNames := by
    intro member held
    obtain ⟨other, otherInside, rfl⟩ := (Reply.mem_foldedMembers_iff distinct).mp held
    exact short other otherInside
  have distinctMembers := Reply.distinct_foldedMembers table pairs
  have held : Reply.memberOf table pair ∈ Reply.foldedMembers table pairs :=
    (Reply.mem_foldedMembers_iff distinct).mpr ⟨pair, inside, rfl⟩
  unfold ofText?
  rw [(Reply.legible_folded distinct).read?_write, Option.bind_some, Reply.folded]
  cases mistyped with
  | number numeric untyped =>
    -- The number is kept as a string, which no field for numbers reads.
    rw [Reply.memberOf, Reply.attributeJson_of_text untyped] at held
    exact ofJson?_of_text distinctMembers shortMembers numeric held
  | text textual typed =>
    -- The digits are taken for a number, which no field for texts reads.
    rw [Reply.memberOf, wordJson, Reply.attributeJson_ofInt typed] at held
    exact ofJson?_of_number distinctMembers shortMembers textual held

/-- A film whose texts all are the digit one. -/
def ones : Film :=
  { blank with id := some "1", title := "1", description := "1", director := "1" }

/-- When a name is not typed as films do, an attribute of that film is mistyped. -/
theorem exists_mistyped {name : String} (listed : name ∈ textNames ++ numberNames)
    (untyped : ¬ TypedBy table name) : ∃ pair ∈ ones.attributes, Mistyped table pair := by
  by_cases numeric : name ∈ numberNames
  · have each : ∀ name ∈ numberNames, name ∈ ones.attributes.map Prod.fst := by decide +kernel
    obtain ⟨pair, held, rfl⟩ := List.mem_map.mp (each name numeric)
    exact ⟨pair, held, .number numeric (by simpa [TypedBy, numeric] using untyped)⟩
  · have textual := (List.mem_append.mp listed).resolve_right numeric
    have each : ∀ name ∈ textNames, (name, (wordJson 1).write) ∈ ones.attributes := by
      decide +kernel
    exact ⟨_, each name textual, .text textual (by simpa [TypedBy, numeric] using untyped)⟩

/-- A reader takes the lists of a film that has none for granted. -/
theorem Flat.granted (flat : film.Flat) : ∀ member ∈ film.members,
    member.1 ∈ ["genre", "actors"] → member ∈ blank.members := by
  intro member inside listed
  simp only [List.mem_cons, List.not_mem_nil, or_false] at listed
  rcases listed with named | named
  · have held : ("genre", textsJson film.genres) ∈ film.members := by simp [members]
    obtain rfl := member_eq inside held named
    rw [flat.genres]
    simp [members, blank]
  · have held : ("actors", textsJson film.actors) ∈ film.members := by simp [members]
    obtain rfl := member_eq inside held named
    rw [flat.actors]
    simp [members, blank]

/-- All attributes of a film without lists hold it, in any order. -/
theorem Flat.holds (flat : film.Flat) (order : pairs.Perm film.attributes) : film.Holds pairs := by
  refine holds_of_perm [] (by simpa using flat.granted) ?_
  simpa using order

/-- A field table reads every film back from its attributes exactly when it types all their names
as films do. -/
theorem ofText?_folded_iff (table : FieldTable) :
    (∀ film : Film, film.Readable → film.Flat → ∀ pairs, pairs.Perm film.attributes →
        ofText? (Reply.folded table pairs).write = some film) ↔
      ∀ name ∈ textNames ++ numberNames, TypedBy table name := by
  constructor
  · -- A name that is typed otherwise loses the film whose texts all are digits.
    intro readBack name listed
    have readable : ones.Readable := ⟨readable_blank.rating, readable_blank.revenue⟩
    have read := readBack ones readable ⟨rfl, rfl⟩ ones.attributes (.refl _)
    refine Classical.byContradiction fun untyped => ?_
    obtain ⟨pair, held, mistyped⟩ := exists_mistyped listed untyped
    have short : ∀ pair ∈ ones.attributes, pair.1 ∈ shortNames := by decide +kernel
    rw [ofText?_folded_of_mistyped ones.distinct_attributes short held mistyped] at read
    contradiction
  · intro typed film readable flat pairs order
    have holds := flat.holds order
    exact ofText?_folded holds readable fun pair inside =>
      typed pair.1 (name_mem_of_attribute (holds.inside pair inside))

/-- A film without lists whose rank is zero is held by its attributes without the rank. -/
theorem Flat.holds_without_rank (flat : film.Flat) (order : pairs.Perm film.attributes) :
    Holds { film with rank := 0 } (pairs.filter fun pair => pair.1 ∉ ["rank"]) := by
  let unranked : Film := { film with rank := 0 }
  have flatUnranked : unranked.Flat := ⟨flat.genres, flat.actors⟩
  have same : film.attributes.filter (fun pair => pair.1 ∉ ["rank"]) =
      unranked.attributes.filter fun pair => pair.1 ∉ ["rank"] := by
    simp [attributes, unranked]
  refine holds_of_perm ["rank"] (fun member inside listed => ?_) (same ▸ order.filter _)
  rcases List.mem_append.mp listed with list | named
  · exact flatUnranked.granted member inside list
  · have held : ("rank", wordJson unranked.rank) ∈ unranked.members := by simp [members]
    obtain rfl := member_eq inside held (List.mem_singleton.mp named)
    simp [members, blank, unranked]

/-- The table of the film index types every name but the rank as films do. -/
theorem typedBy_films : ∀ name ∈ textNames ++ numberNames,
    TypedBy FieldTable.films name ↔ name ≠ "rank" := by
  decide +kernel

/-- A record of attributes of a film is read as one hit, whose payload is the document that they are
folded into. -/
theorem exists_answer_of_record (table : FieldTable) {count : Int64} (natural : 0 ≤ count.toInt)
    (key : String) (own : ∀ pair ∈ pairs, pair ∈ film.attributes) :
    ∃ answer, Answer.read table (Reply.ofRecords count [(key, pairs)]) = .ok answer ∧
      answer.hits = [⟨key, (Reply.folded table pairs).write⟩] := by
  have names : ∀ name ∈ textNames ++ numberNames, name ≠ Reply.documentName := by decide
  have other : ∀ record ∈ [(key, pairs)], ∀ pair ∈ record.2, pair.1 ≠ Reply.documentName :=
    List.forall_mem_singleton.mpr fun pair inside =>
      names pair.1 (name_mem_of_attribute (own pair inside))
  exact ⟨_, Answer.read_ofRecords table natural other, rfl⟩

/-- A record of attributes that hold a film is read as the film when the table types their names as
films do. -/
theorem exists_film_of_record (holds : film.Holds pairs) (readable : film.Readable)
    (typed : ∀ pair ∈ pairs, TypedBy table pair.1) {count : Int64} (natural : 0 ≤ count.toInt)
    (key : String) :
    ∃ answer, Answer.read table (Reply.ofRecords count [(key, pairs)]) = .ok answer ∧
      decodeHits ofText? answer.hits = .ok [film] := by
  obtain ⟨answer, done, hits⟩ := exists_answer_of_record table natural key holds.inside
  refine ⟨answer, done, decodeHits_of_decoded ?_⟩
  rw [hits, List.map_singleton, ofText?_folded holds readable typed, List.map_singleton]

/-- Over the table of the film index the attributes of a film with its rank are read as a hit that
is no film. -/
theorem exists_undecodable_of_rank (flat : film.Flat) (order : pairs.Perm film.attributes)
    {count : Int64} (natural : 0 ≤ count.toInt) (key : String) :
    ∃ answer, Answer.read FieldTable.films (Reply.ofRecords count [(key, pairs)]) = .ok answer ∧
      decodeHits ofText? answer.hits = .error (.undecodable key) := by
  have holds := flat.holds order
  have names : ∀ name ∈ textNames ++ numberNames, name ∈ shortNames := by decide
  have rank : ("rank", (wordJson film.rank).write) ∈ pairs :=
    order.mem_iff.mpr (by simp [attributes])
  have mistyped : Mistyped FieldTable.films ("rank", (wordJson film.rank).write) :=
    .number (by decide) (by decide +kernel)
  have unread := ofText?_folded_of_mistyped holds.distinct
    (fun pair inside => names pair.1 (name_mem_of_attribute (holds.inside pair inside)))
    rank mistyped
  obtain ⟨answer, done, hits⟩ :=
    exists_answer_of_record FieldTable.films natural key holds.inside
  have first : ∀ other ∈ ([] : List Hit), (ofText? other.payload).isSome = true :=
    fun _ inside => nomatch inside
  refine ⟨answer, done, ?_⟩
  rw [hits]
  exact decodeHits_of_undecodable first unread

/-- A flat record of a film is lost over the table of the film index because of its rank: with the
attribute of the rank the hit is read but is no film, whatever the rank, and without it the film is
read with the rank zero. Over a table that types all names as films do, the film is read back, as
long as its numbers are read back from their JSON text. -/
theorem records_lose_rank (readable : film.Readable) (flat : film.Flat)
    (order : pairs.Perm film.attributes) {count : Int64} (natural : 0 ≤ count.toInt)
    (key : String) :
    (∃ answer,
        Answer.read FieldTable.films (Reply.ofRecords count [(key, pairs)]) = .ok answer ∧
        decodeHits ofText? answer.hits = .error (.undecodable key)) ∧
      (∃ answer,
        Answer.read FieldTable.films
            (Reply.ofRecords count [(key, pairs.filter fun pair => pair.1 ∉ ["rank"])]) =
          .ok answer ∧
        decodeHits ofText? answer.hits = .ok [{ film with rank := 0 }]) ∧
      ∀ table : FieldTable, (∀ name ∈ textNames ++ numberNames, TypedBy table name) →
        ∃ answer, Answer.read table (Reply.ofRecords count [(key, pairs)]) = .ok answer ∧
          decodeHits ofText? answer.hits = .ok [film] := by
  refine ⟨exists_undecodable_of_rank flat order natural key, ?_, fun table typed => ?_⟩
  · have holds := flat.holds_without_rank order
    refine exists_film_of_record holds ⟨readable.rating, readable.revenue⟩ ?_ natural key
    intro pair inside
    have listed := name_mem_of_attribute (holds.inside pair inside)
    exact (typedBy_films pair.1 listed).mpr (by simpa using (List.mem_filter.mp inside).2)
  · have holds := flat.holds order
    exact exists_film_of_record holds readable
      (fun pair inside => typed pair.1 (name_mem_of_attribute (holds.inside pair inside)))
      natural key

/-- The film 1917 with the rank five is lost over the table of the film index, is read with the rank
zero when the rank is left out, and is read back when the rank is declared numeric. -/
theorem records_lose_rank_1917 :
    let film : Film := { blank with
      id := some "01H8X", rank := 5, title := "1917", year := 2019,
      rating := ⟨false, 4559894622712627, 1025, by decide⟩ }
    let pairs := film.attributes.reverse
    let ranked : FieldTable := FieldTable.films.insert ⟨"rank", .numeric⟩
    film.Readable ∧ film.Flat ∧ pairs.Perm film.attributes ∧
      (∃ answer,
        Answer.read FieldTable.films (Reply.ofRecords 1 [("movie:1917", pairs)]) = .ok answer ∧
        decodeHits ofText? answer.hits = .error (.undecodable "movie:1917")) ∧
      (∃ answer,
        Answer.read FieldTable.films
            (Reply.ofRecords 1 [("movie:1917", pairs.filter fun pair => pair.1 ∉ ["rank"])]) =
          .ok answer ∧
        decodeHits ofText? answer.hits = .ok [{ film with rank := 0 }]) ∧
      ∃ answer, Answer.read ranked (Reply.ofRecords 1 [("movie:1917", pairs)]) = .ok answer ∧
        decodeHits ofText? answer.hits = .ok [film] := by
  intro film pairs ranked
  have readable : film.Readable := ⟨by decide +kernel, by decide +kernel⟩
  have flat : film.Flat := ⟨rfl, rfl⟩
  have order : pairs.Perm film.attributes := List.reverse_perm _
  have typed : ∀ name ∈ textNames ++ numberNames, TypedBy ranked name := by decide +kernel
  obtain ⟨lost, unranked, kept⟩ :=
    records_lose_rank readable flat order (show 0 ≤ (1 : Int64).toInt by decide) "movie:1917"
  exact ⟨readable, flat, order, lost, unranked, kept ranked typed⟩

/-- So not every film with a key is read back from a flat record over the table of the film
index. -/
theorem not_all_records_kept :
    ¬ ∀ (film : Film) (pairs : List (String × String)) (key : String), film.id.isSome = true →
      film.Readable → film.Flat → pairs.Perm film.attributes →
        ∃ answer, Answer.read FieldTable.films (Reply.ofRecords 1 [(key, pairs)]) = .ok answer ∧
          decodeHits ofText? answer.hits = .ok [film] := by
  intro all
  let film : Film := { blank with id := some "01H8X", rank := 5, title := "1917", year := 2019 }
  have readable : film.Readable := ⟨readable_blank.rating, readable_blank.revenue⟩
  have flat : film.Flat := ⟨rfl, rfl⟩
  obtain ⟨answer, done, kept⟩ := all film film.attributes "movie:1917" rfl readable flat (.refl _)
  obtain ⟨other, otherDone, lost⟩ :=
    exists_undecodable_of_rank flat (.refl _) (show 0 ≤ (1 : Int64).toInt by decide) "movie:1917"
  obtain rfl : answer = other := Except.ok.inj (done.symm.trans otherDone)
  rw [kept] at lost
  contradiction

end Film

end FilmFinder
