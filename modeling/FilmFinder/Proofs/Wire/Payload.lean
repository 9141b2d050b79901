import FilmFinder.Proofs.Json.NumberText
import FilmFinder.Proofs.Json.Record
import FilmFinder.Proofs.Number.Arithmetic
import FilmFinder.Proofs.Text.ByteOrder
import FilmFinder.Proofs.Wire.Attributes

/-!
# What a payload keeps

A payload that attributes are folded into is an object with one member for each name, in byte order.
The member comes from the last attribute under the name; it is a number exactly when the field table
declares the name numeric and the text is a finite number, and the text otherwise. The members are
read back from the payload, whatever characters names and texts hold.
-/
namespace FilmFinder

namespace Reply

/-- The text of the last attribute under a name. -/
inductive LastUnder (name : String) : List (String × String) → String → Prop
  /-- No later attribute is under the name. -/
  | last {text : String} {later : List (String × String)}
    (final : ∀ pair ∈ later, pair.1 ≠ name) : LastUnder name ((name, text) :: later) text
  /-- It stands behind the first attribute. -/
  | behind {pair : String × String} {later : List (String × String)} {text : String}
    (rest : LastUnder name later text) : LastUnder name (pair :: later) text

/-- An attribute is kept as a number: its name is declared numeric, and its text is a number that is
finite. -/
def WritesNumber (table : FieldTable) (name text : String) : Prop :=
  table.isNumeric name = true ∧
    ∃ numeral, Json.NumberText text.toList numeral ∧ numeral.scaled? ≠ none

/-- Members keep attributes. -/
structure Keeps (table : FieldTable) (pairs : List (String × String))
    (members : List (String × Json)) : Prop where
  /-- The names stand in byte order, each of them once. -/
  ascending : members.Pairwise fun left right => Text.bytes left.1 < Text.bytes right.1
  /-- They are the names of the attributes. -/
  names : ∀ name, name ∈ members.map Prod.fst ↔ name ∈ pairs.map Prod.fst
  /-- The value under a name is a number exactly when the last attribute under it is kept as one. -/
  number : ∀ name text value, LastUnder name pairs text → (name, value) ∈ members →
    ((∃ numeral, value = .number numeral) ↔ WritesNumber table name text)
  /-- Otherwise it is the text of that attribute. -/
  text : ∀ name text value, LastUnder name pairs text → (name, value) ∈ members →
    ¬ WritesNumber table name text → value = .ofText text

variable {table : FieldTable} {pairs : List (String × String)} {name text : String}

/-- The text of the last attribute under a name is that of the last pair with the name. -/
theorem lastUnder_iff : LastUnder name pairs text ↔ LastWith Prod.fst name pairs (name, text) := by
  constructor
  · intro under
    refine ⟨rfl, ?_⟩
    induction under with
    | last final => exact ⟨[], _, rfl, final⟩
    | @behind pair later text rest step =>
      obtain ⟨before, after, rfl, final⟩ := step
      exact ⟨pair :: before, after, rfl, final⟩
  · rintro ⟨-, before, after, rfl, final⟩
    induction before with
    | nil => exact .last final
    | cons pair before step => exact .behind step

/-- The last attribute under a name is the only one. -/
theorem LastUnder.unique {other : String} (under : LastUnder name pairs text)
    (otherUnder : LastUnder name pairs other) : text = other :=
  congrArg Prod.snd ((lastUnder_iff.mp under).unique (lastUnder_iff.mp otherUnder))

end Reply

end FilmFinder
