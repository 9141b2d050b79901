import FilmFinder.Json.Value
import FilmFinder.Number.Numeral

/-!
# Records in JSON

A record is written as an object, each field as the member with one of its names, or as an
array of its first fields in declaration order. Every key denotes a text, no field is given
twice, members with other names are passed over, and an array holds no item beyond the last
field. A field that is not given takes its default, if it has one.
-/
namespace FilmFinder

namespace Json

/-- The text of a value. -/
def text? : Json → Option String
  | .string content => content
  | _ => none

/-- The integer of a value: digits that fit a 64-bit word, with no point, power of ten or minus
sign in front of zero. -/
def integer? : Json → Option Int
  | .number numeral => numeral.integer?
  | _ => none

/-- The signed 64-bit integer of a value. -/
def int64? (value : Json) : Option Int64 := do
  let integer ← value.integer?
  if -(signedBound : Int) ≤ integer ∧ integer < signedBound then some (Int64.ofInt integer)
  else none

/-- The unsigned 64-bit integer of a value. -/
def word? (value : Json) : Option UInt64 := do
  let integer ← value.integer?
  if 0 ≤ integer then some (UInt64.ofNat integer.toNat) else none

/-- The finite number of a value. -/
def finite? : Json → Option Binary64.Finite
  | .number numeral => numeral.scaled?
  | _ => none

/-- A value that may be `null`. -/
def nullable? {α : Type} (decode : Json → Option α) : Json → Option (Option α)
  | .null => some none
  | value => (decode value).map some

/-- The items of an array, each decoded. -/
def list? {α : Type} (decode : Json → Option α) : Json → Option (List α)
  | .array items => items.mapM decode
  | _ => none

end Json

/-- A record as it is written. -/
inductive Record where
  /-- The members of an object. -/
  | named (members : List (String × Json))
  /-- The items of an array. -/
  | listed (items : List Json)

namespace Record

/-- A member whose key literal denotes a text. -/
def readable? : Option String × Json → Option (String × Json)
  | (key, value) => key.map fun text => (text, value)

/-- The record that a value writes, of at most `size` fields. -/
def of? (size : Nat) : Json → Option Record
  | .object members =>
    (members.mapM readable?).map .named
  | .array items => if items.length ≤ size then some (.listed items) else none
  | _ => none

/-- The values given under some names. -/
def valuesOf (names : List String) (members : List (String × Json)) : List Json :=
  (members.filter fun member => names.contains member.1).map Prod.snd

/-- The value given for the field at a position: none when it is not given, a failure when it
is given twice. -/
def given? (record : Record) (position : Nat) (names : List String) : Option (Option Json) :=
  match record with
  | .listed items => some items[position]?
  | .named members =>
    match valuesOf names members with
    | [] => some none
    | [value] => some (some value)
    | _ => none

/-- The field at a position, with a value for when it is not given. -/
def field? {α : Type} (record : Record) (position : Nat) (names : List String)
    (decode : Json → Option α) (absent : Option α) : Option α := do
  match ← record.given? position names with
  | none => absent
  | some value => decode value

end Record

end FilmFinder
