import FilmFinder.Proofs.Keyed
import FilmFinder.Query

/-!
# The last declaration of a field

A field table knows the names that its rows have, with one field for each different name. Under a
name it has the field that the last row with the name declares: of what earlier rows say of the
name nothing is left, neither their kind nor their weight.
-/
namespace FilmFinder

/-- An index is told by its kind and its weight. -/
theorem FieldIndex.eq_of_kind_weight? {index other : FieldIndex} (kinds : index.kind = other.kind)
    (weights : index.weight? = other.weight?) : index = other := by
  cases index with
  | text weight =>
    cases other with
    | text otherWeight => exact congrArg text (Option.some.inj weights)
    | tag => contradiction
    | numeric => contradiction
  | tag => cases other <;> simp_all [kind]
  | numeric => cases other <;> simp_all [kind]

/-- What a field shows of itself. -/
structure Field.Shows (field : Field) (name : String) (kind : FieldKind)
    (weight : Option Binary64) : Prop where
  /-- Its name. -/
  name_eq : field.name = name
  /-- Its kind. -/
  kind_eq : field.kind = kind
  /-- Its weight, if it has one. -/
  weight_eq : field.index.weight? = weight

/-- Fields that show the same are the same. -/
theorem Field.Shows.eq {field other : Field} {name : String} {kind : FieldKind}
    {weight : Option Binary64} (shown : field.Shows name kind weight)
    (otherShown : other.Shows name kind weight) : field = other := by
  have names : field.name = other.name := shown.name_eq.trans otherShown.name_eq.symm
  have indices : field.index = other.index :=
    FieldIndex.eq_of_kind_weight? (shown.kind_eq.trans otherShown.kind_eq.symm)
      (shown.weight_eq.trans otherShown.weight_eq.symm)
  cases field
  cases other
  rw [Field.mk.injEq]
  exact ⟨names, indices⟩

namespace FieldRow

/-- The weight that a row gives its field: text has the one given, or else one, and no other kind
has any. -/
def fieldWeight? (row : FieldRow) : Option Binary64 :=
  if row.kind = .text then some (row.weight.getD (.ofNat 1)) else none

/-- The field of a row shows the name, the kind and the weight that the row gives. -/
theorem shows_field (row : FieldRow) : row.field.Shows row.name row.kind row.fieldWeight? := by
  obtain ⟨name, kind, weight⟩ := row
  cases kind <;> exact ⟨rfl, rfl, rfl⟩

end FieldRow

namespace FieldTable

variable {table : FieldTable} {name : String} {field : Field}

/-- The field that a criterion names is the one found under the name. -/
theorem field?_eq_ok_iff : table.field? name = .ok field ↔ table.find? name = some field := by
  unfold field?
  split
  next found => rw [found, Except.ok.injEq, Option.some.injEq]
  next missing => simp [missing]

/-- A name under which no field is found is unknown. -/
theorem field?_of_none (missing : table.find? name = none) :
    table.field? name = .error (.unknownField name) := by
  rw [field?, missing]

/-- A table holds the last of some rows under each name, where a row gives a name, a kind and a
weight. -/
structure HoldsLast {Row : Type} (nameOf : Row → String) (kindOf : Row → FieldKind)
    (weightOf : Row → Option Binary64) (rows : List Row) (table : FieldTable) : Prop where
  /-- The field under a name has that name. -/
  name_eq : ∀ name field, table.field? name = .ok field → field.name = name
  /-- The fields are those that are found under their own names. -/
  mem_iff : ∀ field, field ∈ table.items ↔ table.field? field.name = .ok field
  /-- A name has a field exactly when a row has the name. -/
  known_iff : ∀ name, (∃ field, table.field? name = .ok field) ↔ name ∈ rows.map nameOf
  /-- Any other name is unknown. -/
  unknown : ∀ name, name ∉ rows.map nameOf → table.field? name = .error (.unknownField name)
  /-- The names that the table contains are those that have a field. -/
  contains_iff : ∀ name, table.contains name = true ↔ ∃ field, table.field? name = .ok field
  /-- There are as many fields as different names. -/
  size_eq : table.size = (rows.map nameOf).toFinset.card
  /-- The field under a name shows what the last row with the name gives. -/
  last_iff : ∀ name field, table.field? name = .ok field ↔
    ∃ row, LastWith nameOf name rows row ∧ field.Shows (nameOf row) (kindOf row) (weightOf row)

section Declared

variable {Row : Type} {nameOf : Row → String} {kindOf : Row → FieldKind}
  {weightOf : Row → Option Binary64} {declare : Row → Field}
  (shown : ∀ row, (declare row).Shows (nameOf row) (kindOf row) (weightOf row)) (rows : List Row)

include shown

/-- The names of the declared fields are those of the rows. -/
theorem names_declared : (rows.map declare).map Field.name = rows.map nameOf := by
  rw [List.map_map]
  exact List.map_congr_left fun row _ => (shown row).name_eq

/-- A name has a declared field exactly when a row has the name. -/
theorem exists_field?_declared_iff :
    (∃ field, (ofFields (rows.map declare)).field? name = .ok field) ↔
      name ∈ rows.map nameOf := by
  simp only [field?_eq_ok_iff]
  rw [← Keyed.mem_keys_iff, ofFields, Keyed.mem_keys_ofList, names_declared shown]

/-- The field under a name is the one that the last row with the name declares. -/
theorem field?_declared_iff :
    (ofFields (rows.map declare)).field? name = .ok field ↔
      ∃ row, LastWith nameOf name rows row ∧ field = declare row := by
  rw [field?_eq_ok_iff]
  exact Keyed.find?_ofList_map_iff fun row => (shown row).name_eq

/-- A table of declared fields holds the last row under each name. -/
theorem holdsLast_declared :
    (ofFields (rows.map declare)).HoldsLast nameOf kindOf weightOf rows where
  name_eq name field found := (Keyed.key_of_find? (field?_eq_ok_iff.mp found)).1
  mem_iff field := by
    rw [field?_eq_ok_iff]
    exact ⟨Keyed.find?_of_mem, fun found => (Keyed.key_of_find? found).2⟩
  known_iff name := exists_field?_declared_iff shown rows
  unknown name absent := by
    refine field?_of_none (Option.eq_none_iff_forall_ne_some.mpr fun field found => absent ?_)
    exact (exists_field?_declared_iff shown rows).mp ⟨field, field?_eq_ok_iff.mpr found⟩
  contains_iff name := by
    simp only [field?_eq_ok_iff]
    exact Keyed.contains_iff
  size_eq := by
    rw [ofFields, Keyed.size_ofList, names_declared shown]
  last_iff name field := by
    rw [field?_declared_iff shown]
    refine exists_congr fun row => and_congr_right fun _ => ?_
    exact ⟨fun same => same ▸ shown row, fun other => other.eq (shown row)⟩

end Declared

/-- The last declaration of a name counts, in the table of any rows and in that of any fields
declared one after another. A row gives text its weight, or else one, and gives tags and numbers
none; a field that is declared without a row gives what it shows. -/
theorem last_declaration_counts :
    (∀ rows : List FieldRow,
      (ofRows rows).HoldsLast FieldRow.name FieldRow.kind FieldRow.fieldWeight? rows) ∧
    ∀ fields : List Field,
      (ofFields fields).HoldsLast Field.name Field.kind (fun field => field.index.weight?)
        fields := by
  constructor
  · intro rows
    exact holdsLast_declared FieldRow.shows_field rows
  · intro fields
    have shown : ∀ field : Field,
        (id field).Shows field.name field.kind field.index.weight? := fun _ => ⟨rfl, rfl, rfl⟩
    have holds := holdsLast_declared shown fields
    rwa [List.map_id] at holds

/-- Of a name first declared as text and then as numbers no weight is left, nor is the weight that
a row gives tags. -/
example :
    (ofRows [⟨"year", .text, some (.ofNat 3)⟩, ⟨"cast", .tag, some (.ofNat 9)⟩,
      ⟨"year", .numeric, none⟩]).items = [⟨"cast", .tag⟩, ⟨"year", .numeric⟩] := by
  decide +kernel

end FieldTable

end FilmFinder
