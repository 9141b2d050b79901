import FilmFinder.Json.Record

/-!
# Members of a record

Which value a record gives a field depends on its members alone, not on their order: when no key
is written twice, it is the value of the one member under a name of the field, and there is no
value when no member is under such a name. A text, a finite number or nothing is read from the JSON
values that write it, and from no others.
-/
namespace FilmFinder

namespace Json

/-- A value is read as a text exactly when it is a string literal of it. -/
theorem text?_eq_some_iff {value : Json} {text : String} :
    value.text? = some text ↔ value = .ofText text := by
  cases value with
  | string content => simp [text?, ofText]
  | null | bool | number | array | object => simp [text?, ofText]

/-- A value is read as a text or nothing exactly when it is a string literal or `null`. -/
theorem nullable?_text?_eq_some_iff {value : Json} {text : Option String} :
    nullable? text? value = some text ↔ value = text.elim .null .ofText := by
  cases value with
  | null => cases text <;> simp [nullable?, ofText]
  | string content => cases text <;> simp [nullable?, text?, ofText]
  | bool | number | array | object => cases text <;> simp [nullable?, text?, ofText]

/-- A value is read as a finite number exactly when it is a numeral of one. -/
theorem finite?_eq_some_iff {value : Json} {number : Binary64.Finite} :
    value.finite? = some number ↔
      ∃ numeral, value = .number numeral ∧ numeral.scaled? = some number := by
  cases value with
  | number numeral => simp [finite?]
  | null | bool | string | array | object => simp [finite?]

end Json

namespace Record

variable {names : List String} {members others : List (String × Json)}

/-- An object whose keys denote texts is a record of its members. -/
theorem of?_record (size : Nat) (members : List (String × Json)) :
    of? size (.record members) = some (.named members) := by
  have read : (members.map fun member => (some member.1, member.2)).mapM readable? =
      some members := by
    induction members with
    | nil => rfl
    | cons member members step =>
      rw [List.map_cons, List.mapM_cons, step]
      rfl
  change (List.mapM readable? _).map Record.named = _
  rw [read, Option.map_some]

/-- A field is given no value when no member is under one of its names. -/
theorem valuesOf_of_absent (absent : ∀ member ∈ members, member.1 ∉ names) :
    valuesOf names members = [] := by
  have none_kept : members.filter (fun member => names.contains member.1) = [] := by
    refine List.filter_eq_nil_iff.mpr fun member inside => ?_
    simpa using absent member inside
  rw [valuesOf, none_kept, List.map_nil]

/-- A field is given one value when a member is under one of its names and no key is written
twice. -/
theorem valuesOf_of_mem {name : String} {value : Json} (distinct : (members.map Prod.fst).Nodup)
    (inside : (name, value) ∈ members) (named : name ∈ names)
    (only : ∀ member ∈ members, member.1 ∈ names → member.1 = name) :
    valuesOf names members = [value] := by
  induction members with
  | nil => contradiction
  | cons member members step =>
    rw [List.map_cons, List.nodup_cons] at distinct
    rcases List.mem_cons.mp inside with rfl | inside
    · have others : valuesOf names members = [] := by
        refine valuesOf_of_absent fun other otherInside otherNamed => distinct.1 ?_
        have same : other.1 = name := only other (.tail _ otherInside) otherNamed
        have repeated : other.1 ∈ members.map Prod.fst := List.mem_map_of_mem otherInside
        rwa [same] at repeated
      have kept : names.contains name = true := List.contains_iff_mem.mpr named
      simp only [valuesOf, List.filter_cons, kept, ↓reduceIte, List.map_cons] at others ⊢
      rw [others]
    · have passed : ¬ names.contains member.1 = true := by
        intro kept
        have same := only member (.head _) (List.contains_iff_mem.mp kept)
        rw [same] at distinct
        exact distinct.1 (List.mem_map_of_mem inside)
      have rest := step distinct.2 inside fun other otherInside => only other (.tail _ otherInside)
      simp only [valuesOf, List.filter_cons, passed] at rest ⊢
      exact rest

/-- The values given under some names, with one member more in front. -/
theorem valuesOf_cons (name : String) (value : Json) (members : List (String × Json)) :
    valuesOf names ((name, value) :: members) =
      if name ∈ names then value :: valuesOf names members else valuesOf names members := by
  by_cases named : name ∈ names <;> simp [valuesOf, named]

/-- A value is given under some names exactly when a member under one of them has it. -/
theorem mem_valuesOf_iff {value : Json} :
    value ∈ valuesOf names members ↔ ∃ member ∈ members, member.1 ∈ names ∧ member.2 = value := by
  simp [valuesOf, and_assoc, List.mem_map, List.mem_filter]

/-- No value is given under some names exactly when no member is under one of them. -/
theorem valuesOf_eq_nil_iff :
    valuesOf names members = [] ↔ ∀ member ∈ members, member.1 ∉ names := by
  refine ⟨fun nothing member inside named => ?_, valuesOf_of_absent⟩
  have given : member.2 ∈ valuesOf names members :=
    mem_valuesOf_iff.mpr ⟨member, inside, named, rfl⟩
  rw [nothing] at given
  contradiction

/-- At most one value is given under some names exactly when no two members are under them. -/
theorem length_valuesOf_le_one_iff :
    (valuesOf names members).length ≤ 1 ↔
      members.Pairwise fun left right => ¬ (left.1 ∈ names ∧ right.1 ∈ names) := by
  have short {α : Type} (items : List α) : items.length ≤ 1 ↔ items.Pairwise fun _ _ => False := by
    cases items with
    | nil => simp
    | cons first items =>
      cases items with
      | nil => simp
      | cons second items =>
        exact iff_of_false (by simp) fun apart => List.rel_of_pairwise_cons apart (.head _)
  rw [valuesOf, List.length_map, short, List.pairwise_filter]
  simp

variable {α : Type} (position : Nat) (decode : Json → Option α) (absent : Option α)

/-- A field with one value is read from it. -/
theorem field?_of_value {value : Json} (given : valuesOf names members = [value]) :
    (named members).field? position names decode absent = decode value := by
  simp only [field?, given?, given, bind, Option.bind]

/-- A field without a value takes its default. -/
theorem field?_of_absent (given : valuesOf names members = []) :
    (named members).field? position names decode absent = absent := by
  simp only [field?, given?, given, bind, Option.bind]

variable {position decode absent}

/-- A field is read when no value is given for it and it has a default, or when one value is given
for it and is read. -/
theorem field?_eq_some_iff {held : α} :
    (named members).field? position names decode absent = some held ↔
      valuesOf names members = [] ∧ absent = some held ∨
        ∃ value, valuesOf names members = [value] ∧ decode value = some held := by
  cases given : valuesOf names members with
  | nil => simp [field?_of_absent position decode absent given]
  | cons value values =>
    cases values with
    | nil => simp [field?_of_value position decode absent given]
    | cons => simp [field?, given?, given]

/-- A field is read alike from members that give the same values for it, in any order. -/
theorem field?_of_perm (same : (valuesOf names members).Perm (valuesOf names others)) :
    (named members).field? position names decode absent =
      (named others).field? position names decode absent := by
  refine Option.ext fun held => ?_
  rw [field?_eq_some_iff, field?_eq_some_iff]
  have none_given : valuesOf names members = [] ↔ valuesOf names others = [] :=
    ⟨fun given => (given ▸ same).nil_eq.symm, fun given => (given ▸ same).eq_nil⟩
  have one_given (value : Json) :
      valuesOf names members = [value] ↔ valuesOf names others = [value] :=
    ⟨fun given => (given ▸ same).singleton_eq.symm, fun given => (given ▸ same).eq_singleton⟩
  simp only [none_given, one_given]

end Record

end FilmFinder
