import FilmFinder.Proofs.Film.Document

/-!
# Which objects are films

An object whose keys are texts is read as a film exactly when it gives no field twice, a field's
two names counting as one, and what it gives a field is of the field's kind. The film then holds
what it is given, and takes for granted what it is not given. So it makes no difference in which
order the members stand, which of its names a field goes under, and what members stand there under
names that are no field's.
-/
namespace FilmFinder

namespace Film

/-- The kinds of fields. -/
inductive Kind where
  /-- A text or nothing. -/
  | key
  /-- A signed 64-bit integer. -/
  | word
  /-- A text. -/
  | text
  /-- A list of texts. -/
  | texts
  /-- A finite number. -/
  | real

namespace Kind

/-- What a field of a kind holds. -/
abbrev Held : Kind → Type
  | .key => Option String
  | .word => Int64
  | .text => String
  | .texts => List String
  | .real => Binary64.Finite

/-- A JSON value writes what a field of a kind holds. A numeral with a point or a power of ten
writes no integer, and neither does a zero with a minus sign. -/
def Writes : (kind : Kind) → Json → kind.Held → Prop
  | .key, value, held => value = Option.elim held .null .ofText
  | .word, value, held => value = wordJson held
  | .text, value, held => value = .ofText held
  | .texts, value, held => value = textsJson held
  | .real, value, held => ∃ numeral, value = .number numeral ∧ numeral.scaled? = some held

/-- The reader of what a field of a kind holds. -/
def decode : (kind : Kind) → Json → Option kind.Held
  | .key => Json.nullable? Json.text?
  | .word => Json.int64?
  | .text => Json.text?
  | .texts => Json.list? Json.text?
  | .real => Json.finite?

/-- What is read for a field is what the value writes. -/
theorem decode_eq_some_iff {kind : Kind} {value : Json} {held : kind.Held} :
    kind.decode value = some held ↔ kind.Writes value held := by
  cases kind with
  | key => exact Json.nullable?_text?_eq_some_iff
  | word => exact Json.int64?_eq_some_iff
  | text => exact Json.text?_eq_some_iff
  | texts => exact Json.list?_text?_eq_some_iff
  | real => exact Json.finite?_eq_some_iff

end Kind

/-- The fields of a film. -/
inductive Slot where
  /-- The key. -/
  | id
  /-- The rank. -/
  | rank
  /-- The title. -/
  | title
  /-- The genres. -/
  | genres
  /-- The description. -/
  | description
  /-- The director. -/
  | director
  /-- The actors. -/
  | actors
  /-- The year. -/
  | year
  /-- The length. -/
  | runtime
  /-- The rating. -/
  | rating
  /-- The number of ratings. -/
  | votes
  /-- The revenue. -/
  | revenue
  /-- The score. -/
  | metascore
  deriving DecidableEq

namespace Slot

/-- The kind of a field. -/
def kind : Slot → Kind
  | .id => .key
  | .rank | .year | .runtime | .votes | .metascore => .word
  | .title | .description | .director => .text
  | .genres | .actors => .texts
  | .rating | .revenue => .real

/-- The names that a field goes under: its short name, and the title of its column if it has one. -/
def names : Slot → List String
  | .id => ["movieId"]
  | .rank => ["rank", "Rank"]
  | .title => ["title", "Title"]
  | .genres => ["genre", "Genre"]
  | .description => ["description", "Description"]
  | .director => ["director", "Director"]
  | .actors => ["actors", "Actors"]
  | .year => ["year", "Year"]
  | .runtime => ["runtime", "Runtime (Minutes)"]
  | .rating => ["rating", "Rating"]
  | .votes => ["votes", "Votes"]
  | .revenue => ["revenue", "Revenue (Millions)"]
  | .metascore => ["metascore", "Metascore"]

/-- What a film holds in a field. -/
def of : (slot : Slot) → Film → slot.kind.Held
  | .id => Film.id
  | .rank => Film.rank
  | .title => Film.title
  | .genres => Film.genres
  | .description => Film.description
  | .director => Film.director
  | .actors => Film.actors
  | .year => Film.year
  | .runtime => Film.runtime
  | .rating => Film.rating
  | .votes => Film.votes
  | .revenue => Film.revenue
  | .metascore => Film.metascore

/-- All fields in the order in which they are read. -/
def inOrder : List Slot :=
  [.id, .rank, .title, .genres, .description, .director, .actors, .year, .runtime, .rating, .votes,
    .revenue, .metascore]

/-- Every field is one of those in order. -/
theorem mem_inOrder (slot : Slot) : slot ∈ inOrder := by
  cases slot <;> simp [inOrder]

/-- The names of different fields are different. -/
theorem eq_of_mem_names {name : String} {slot other : Slot} (named : name ∈ slot.names)
    (otherNamed : name ∈ other.names) : slot = other := by
  have apart : ∀ slot ∈ inOrder, ∀ name ∈ slot.names, ∀ other ∈ inOrder,
      name ∈ other.names → slot = other := by decide +kernel
  exact apart slot slot.mem_inOrder name named other other.mem_inOrder otherNamed

variable (slot : Slot) (members : List (String × Json))

/-- What is read for a field from members; a field for which no value is given holds what it holds
in the film of which nothing is known. -/
def read? : Option slot.kind.Held :=
  (Record.named members).field? slot.ctorIdx slot.names slot.kind.decode (some (slot.of blank))

/-- A field is given at most once: no two members are under its names. -/
def IsOnce : Prop :=
  members.Pairwise fun left right => ¬ (left.1 ∈ slot.names ∧ right.1 ∈ slot.names)

/-- What is given for a field is of its kind. -/
def IsTyped : Prop :=
  ∀ member ∈ members, member.1 ∈ slot.names → ∃ held, slot.kind.Writes member.2 held

variable {slot members}

/-- Members tell what a field holds: what is given under one of its names writes it, and when
nothing is, it is what it is in the film of which nothing is known. -/
structure Tells (slot : Slot) (members : List (String × Json)) (held : slot.kind.Held) : Prop where
  /-- What is given is held. -/
  given : ∀ member ∈ members, member.1 ∈ slot.names → slot.kind.Writes member.2 held
  /-- A field that is not given takes its default. -/
  default : (∀ member ∈ members, member.1 ∉ slot.names) → held = slot.of blank

/-- What is given for a field has a property exactly when the values given under its names do. -/
theorem forall_given_iff (holds : Json → Prop) :
    (∀ member ∈ members, member.1 ∈ slot.names → holds member.2) ↔
      ∀ value ∈ Record.valuesOf slot.names members, holds value := by
  constructor
  · intro given value listed
    obtain ⟨member, inside, named, rfl⟩ := Record.mem_valuesOf_iff.mp listed
    exact given member inside named
  · intro given member inside named
    exact given member.2 (Record.mem_valuesOf_iff.mpr ⟨member, inside, named, rfl⟩)

/-- What members tell follows from the values they give. -/
theorem tells_iff {held : slot.kind.Held} :
    slot.Tells members held ↔
      (∀ value ∈ Record.valuesOf slot.names members, slot.kind.Writes value held) ∧
        (Record.valuesOf slot.names members = [] → held = slot.of blank) := by
  rw [Record.valuesOf_eq_nil_iff, ← forall_given_iff fun value => slot.kind.Writes value held]
  exact ⟨fun tells => ⟨tells.given, tells.default⟩, fun told => ⟨told.1, told.2⟩⟩

/-- What is read for a field is what members tell that give it at most once. -/
theorem read?_eq_some_iff {held : slot.kind.Held} :
    slot.read? members = some held ↔ slot.IsOnce members ∧ slot.Tells members held := by
  rw [read?, Record.field?_eq_some_iff, IsOnce, ← Record.length_valuesOf_le_one_iff, tells_iff]
  simp only [Kind.decode_eq_some_iff]
  cases Record.valuesOf slot.names members with
  | nil => simp [eq_comm]
  | cons value values => cases values <;> simp

/-- Something is read for a field exactly when it is given at most once and what is given is of its
kind. -/
theorem exists_read?_iff :
    (∃ held, slot.read? members = some held) ↔ slot.IsOnce members ∧ slot.IsTyped members := by
  rw [IsOnce, ← Record.length_valuesOf_le_one_iff, IsTyped,
    forall_given_iff fun value => ∃ held, slot.kind.Writes value held]
  simp only [read?, Record.field?_eq_some_iff, Kind.decode_eq_some_iff]
  cases Record.valuesOf slot.names members with
  | nil => simp
  | cons value values => cases values <;> simp

end Slot

/-- A film is read from an object exactly when each of its fields is. -/
theorem ofJson?_eq_some_iff_slots {members : List (String × Json)} {film : Film} :
    ofJson? (.record members) = some film ↔
      ∀ slot : Slot, slot.read? members = some (slot.of film) := by
  rw [ofJson?_eq_some_iff]
  constructor
  · intro fields slot
    cases slot with
    | id => exact fields.id
    | rank => exact fields.rank
    | title => exact fields.title
    | genres => exact fields.genres
    | description => exact fields.description
    | director => exact fields.director
    | actors => exact fields.actors
    | year => exact fields.year
    | runtime => exact fields.runtime
    | rating => exact fields.rating
    | votes => exact fields.votes
    | revenue => exact fields.revenue
    | metascore => exact fields.metascore
  · intro read
    exact ⟨read .id, read .rank, read .title, read .genres, read .description, read .director,
      read .actors, read .year, read .runtime, read .rating, read .votes, read .revenue,
      read .metascore⟩

/-- The film that holds something in each field. -/
def ofHeld (held : (slot : Slot) → slot.kind.Held) : Film :=
  { id := held .id, rank := held .rank, title := held .title, genres := held .genres,
    description := held .description, director := held .director, actors := held .actors,
    year := held .year, runtime := held .runtime, rating := held .rating, votes := held .votes,
    revenue := held .revenue, metascore := held .metascore }

/-- The film that holds something in each field holds it there. -/
theorem Slot.of_ofHeld (slot : Slot) (held : (slot : Slot) → slot.kind.Held) :
    slot.of (ofHeld held) = held slot := by
  cases slot <;> rfl

variable {members others : List (String × Json)}

/-- A film is read from an object exactly when the object gives each field at most once and what it
gives for a field is of its kind. -/
theorem exists_ofJson?_iff :
    (∃ film, ofJson? (.record members) = some film) ↔
      ∀ slot : Slot, slot.IsOnce members ∧ slot.IsTyped members := by
  simp only [← Slot.exists_read?_iff, ofJson?_eq_some_iff_slots]
  constructor
  · rintro ⟨film, read⟩ slot
    exact ⟨_, read slot⟩
  · intro readable
    choose held read using readable
    refine ⟨ofHeld held, fun slot => ?_⟩
    rw [slot.of_ofHeld, read]

/-- Members that say the same in other words: they stand in another order, there is a member more
under a name that is no field's, or a field goes under another of its names. -/
inductive Reworded : List (String × Json) → List (String × Json) → Prop
  /-- The members stand in another order. -/
  | order {members others : List (String × Json)} (same : members.Perm others) :
    Reworded members others
  /-- There is a member more under a name that is no field's. -/
  | unknown {name : String} (foreign : ∀ slot : Slot, name ∉ slot.names) (value : Json)
    (members : List (String × Json)) : Reworded ((name, value) :: members) members
  /-- A field goes under another of its names. -/
  | renamed {slot : Slot} {name other : String} (named : name ∈ slot.names)
    (otherNamed : other ∈ slot.names) (value : Json) (members : List (String × Json)) :
    Reworded ((name, value) :: members) ((other, value) :: members)
  /-- What is said in other words is said back in the words before. -/
  | symm {members others : List (String × Json)} (same : Reworded members others) :
    Reworded others members
  /-- What is reworded twice is reworded. -/
  | trans {members others last : List (String × Json)} (same : Reworded members others)
    (next : Reworded others last) : Reworded members last

/-- Members that say the same in other words give the same values for each field. -/
theorem Reworded.valuesOf_perm (same : Reworded members others) (slot : Slot) :
    (Record.valuesOf slot.names members).Perm (Record.valuesOf slot.names others) := by
  induction same with
  | order same => exact (same.filter _).map _
  | unknown foreign value members => rw [Record.valuesOf_cons, if_neg (foreign slot)]
  | @renamed given name other named otherNamed value members =>
    -- Fields share no name, so every other field has neither of the two.
    have alike : name ∈ slot.names ↔ other ∈ slot.names := by
      constructor
      · intro inside
        rwa [Slot.eq_of_mem_names inside named]
      · intro inside
        rwa [Slot.eq_of_mem_names inside otherNamed]
    rw [Record.valuesOf_cons, Record.valuesOf_cons, if_congr alike rfl rfl]
  | symm same step => exact step.symm
  | trans same next first second => exact first.trans second

/-- Members that say the same in other words are read alike. -/
theorem Reworded.ofJson?_eq (same : Reworded members others) :
    ofJson? (.record others) = ofJson? (.record members) := by
  have alike (slot : Slot) : slot.read? others = slot.read? members :=
    (Record.field?_of_perm (same.valuesOf_perm slot)).symm
  refine Option.ext fun film => ?_
  simp only [ofJson?_eq_some_iff_slots, alike]

/-- What is read from the text of an object is read from the object. -/
theorem ofText?_of_written {text : String} (written : Json.read? text = some (.record members)) :
    ofText? text = ofJson? (.record members) := by
  rw [ofText?, written]
  rfl

/-- An object whose keys are texts is read as a film exactly when it gives each field at most once
and what it gives for a field is of its kind. The film is then the one that its members tell, and
every text of members that say the same in other words is read alike. -/
theorem ofText?_object {text : String} (written : Json.read? text = some (.record members)) :
    ((∃ film, ofText? text = some film) ↔
        ∀ slot : Slot, slot.IsOnce members ∧ slot.IsTyped members) ∧
      (∀ film, ofText? text = some film ↔
        ∀ slot : Slot, slot.IsOnce members ∧ slot.Tells members (slot.of film)) ∧
      ∀ other others, Json.read? other = some (.record others) → Reworded members others →
        ofText? other = ofText? text := by
  rw [ofText?_of_written written]
  refine ⟨exists_ofJson?_iff, fun film => ?_, fun other others otherWritten same => ?_⟩
  · simp only [ofJson?_eq_some_iff_slots, Slot.read?_eq_some_iff]
  · rw [ofText?_of_written otherWritten, same.ofJson?_eq]

/-- A remark is passed over, and the titles of two columns are the same as the short names, in
whichever order. -/
theorem ofText?_object_split :
    let members : List (String × Json) := [("remark", .bool true), ("Title", .ofText "Split"),
      ("Votes", .ofInt 157606), ("movieId", .null)]
    let others : List (String × Json) := [("movieId", .null), ("votes", .ofInt 157606),
      ("title", .ofText "Split")]
    let text := "\x7b\"remark\":true,\"Title\":\"Split\",\"Votes\":157606,\"movieId\":null\x7d"
    let other := "\x7b\"movieId\":null,\"votes\":157606,\"title\":\"Split\"\x7d"
    let film := { blank with title := "Split", votes := 157606 }
    Json.read? text = some (.record members) ∧ Json.read? other = some (.record others) ∧
      Reworded members others ∧ ofText? text = some film ∧ ofText? other = some film ∧
      ∀ slot : Slot, slot.IsOnce members ∧ slot.IsTyped members ∧
        slot.Tells members (slot.of film) := by
  intro members others text other film
  have legible : (Json.record members).Legible ∧ (Json.record others).Legible := by
    refine ⟨.object ?_, .object ?_⟩ <;> simp only [members, others, List.forall_mem_cons]
    · exact ⟨.bool _, .string _, Json.legible_ofInt _, .null, nofun⟩
    · exact ⟨.null, Json.legible_ofInt _, .string _, nofun⟩
  have written : Json.read? text = some (.record members) := by
    have laid : (Json.record members).write = text := by decide +kernel
    rw [← laid]
    exact legible.1.read?_write
  have otherWritten : Json.read? other = some (.record others) := by
    have laid : (Json.record others).write = other := by decide +kernel
    rw [← laid]
    exact legible.2.read?_write
  have reworded : Reworded members others := by
    have foreign (slot : Slot) : "remark" ∉ slot.names := by cases slot <;> decide
    have title : "Title" ∈ Slot.title.names ∧ "title" ∈ Slot.title.names := by decide
    have votes : "Votes" ∈ Slot.votes.names ∧ "votes" ∈ Slot.votes.names := by decide
    exact .trans (.unknown foreign _ _) (.trans (.renamed title.1 title.2 _ _)
      (.trans (.order (List.perm_append_singleton _ _).symm)
        (.trans (.renamed votes.1 votes.2 _ _) (.order (.swap _ _ _)))))
  have done : ofText? text = some film := by decide +kernel
  obtain ⟨given, told, alike⟩ := ofText?_object written
  have slots := given.mp ⟨film, done⟩
  have otherDone := (alike other others otherWritten reworded).trans done
  exact ⟨written, otherWritten, reworded, done, otherDone,
    fun slot => ⟨(slots slot).1, (slots slot).2, ((told film).mp done slot).2⟩⟩

end Film
end FilmFinder
