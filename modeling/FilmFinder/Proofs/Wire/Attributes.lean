import FilmFinder.Proofs.Json.RoundTrip
import FilmFinder.Proofs.Keyed
import FilmFinder.Proofs.Wire.Layout

/-!
# Attributes folded into a document

The attributes of a hit that has no document become the members of one. Each becomes a member by
itself: a numeral under a name that the field table declares numeric is a number, every other text
is a string. So attributes with different names become the same members in any order.
-/
namespace FilmFinder

namespace Reply

/-- The member that an attribute becomes. -/
def memberOf (table : FieldTable) (pair : String × String) : String × Json :=
  (pair.1, attributeJson table pair.1 pair.2)

/-- The members of the document that attributes are folded into. -/
def foldedMembers (table : FieldTable) (attributes : List (String × String)) :
    List (String × Json) :=
  (Keyed.ofList (attributes.map (memberOf table)) : AttributeTable).items

/-- The document that attributes are folded into. -/
def folded (table : FieldTable) (attributes : List (String × String)) : Json :=
  .record (foldedMembers table attributes)

/-- A name and a value read as an attribute. -/
structure EntryReads (entry : WireValue × WireValue) (pair : String × String) : Prop where
  /-- The name reads as the name of the attribute. -/
  name : entry.1.ReadsAs pair.1
  /-- The value reads as its text. -/
  text : entry.2.ReadsAs pair.2

variable {table : FieldTable} {attributes : List (String × String)}

/-- Attributes none of which is the document are folded onto those before them. -/
theorem payloadFrom?_of_reads {entries : List (WireValue × WireValue)}
    (reads : List.Forall₂ EntryReads entries attributes)
    (other : ∀ pair ∈ attributes, pair.1 ≠ documentName) (key : String)
    (seen : AttributeTable) :
    let folded := (attributes.map (memberOf table)).foldl Keyed.insert seen
    payloadFrom? table key seen (inTurn entries) = .ok (Json.record folded.items).write := by
  induction reads generalizing seen with
  | nil => rfl
  | @cons entry pair entries attributes first rest step =>
    change payloadFrom? table key seen (entry.1 :: entry.2 :: inTurn entries) = _
    unfold payloadFrom?
    rw [WireValue.text?_eq_ok_iff.mpr first.name, WireValue.text?_eq_ok_iff.mpr first.text]
    change (if pair.1 = documentName then _ else _) = _
    rw [if_neg (other pair (.head _))]
    exact step (fun later inside => other later (.tail _ inside)) _

/-- Attributes none of which is the document have the document as payload that they are folded
into. -/
theorem payload?_of_reads {entries : List (WireValue × WireValue)}
    (reads : List.Forall₂ EntryReads entries attributes)
    (other : ∀ pair ∈ attributes, pair.1 ≠ documentName) (key : String) :
    payload? table key (inTurn entries) = .ok (folded table attributes).write := by
  have even : (inTurn entries).length % 2 = 0 := by
    rw [length_inTurn]
    exact Nat.mul_mod_left _ 2
  unfold payload?
  rw [if_pos even]
  exact payloadFrom?_of_reads reads other key .empty

/-- No key of the document is written twice. -/
theorem distinct_foldedMembers (table : FieldTable) (attributes : List (String × String)) :
    ((foldedMembers table attributes).map Prod.fst).Nodup :=
  Keyed.distinct_keys _

/-- Attributes with different names become one member each, and nothing else becomes one. -/
theorem mem_foldedMembers_iff (distinct : (attributes.map Prod.fst).Nodup)
    {member : String × Json} :
    member ∈ foldedMembers table attributes ↔
      ∃ pair ∈ attributes, memberOf table pair = member := by
  have order : (foldedMembers table attributes).Perm (attributes.map (memberOf table)) := by
    refine Keyed.ofList_perm ?_
    rw [List.map_map]
    exact distinct
  rw [order.mem_iff, List.mem_map]

/-- Under a name that is not declared numeric every text is a string. -/
theorem attributeJson_of_text {name : String} (textual : table.isNumeric name = false)
    (text : String) : attributeJson table name text = .ofText text := by
  unfold attributeJson
  rw [textual]
  rfl

/-- Under a name that is declared numeric a numeral is a number in its usual form. -/
theorem attributeJson_of_numeral {name : String} (numeric : table.isNumeric name = true)
    {numeral : Numeral} (digits : ∀ digit ∈ numeral.fraction, digit.isDigit = true) :
    attributeJson table name (Json.number numeral).write =
      (usualNumeral? numeral).getD (.ofText (Json.number numeral).write) := by
  unfold attributeJson
  rw [numeric, (Json.Legible.number digits).read?_write]
  rfl

/-- Under a name that is declared numeric the text of an integer is the integer. -/
theorem attributeJson_ofInt {name : String} (numeric : table.isNumeric name = true)
    (value : Int64) : attributeJson table name (Json.ofInt value.toInt).write =
      .ofInt value.toInt := by
  have digits : ∀ digit ∈ (Numeral.ofInt value.toInt).fraction, digit.isDigit = true :=
    fun _ inside => nomatch inside
  refine (attributeJson_of_numeral numeric digits).trans ?_
  unfold usualNumeral?
  rw [Json.integer?_ofInt]
  rfl

/-- The value of an attribute is legible. -/
theorem legible_attributeJson (table : FieldTable) (name text : String) :
    (attributeJson table name text).Legible := by
  have usual (numeral : Numeral) : ((usualNumeral? numeral).getD (.ofText text)).Legible := by
    unfold usualNumeral?
    split
    · exact Json.legible_ofInt _
    · cases numeral.scaled? with
      | none => exact .string text
      | some value => exact Json.legible_ofFinite value
  unfold attributeJson
  split
  · split
    · exact usual _
    · exact .string text
  · exact .string text

/-- A document that attributes with different names are folded into is legible. -/
theorem legible_folded (distinct : (attributes.map Prod.fst).Nodup) :
    (folded table attributes).Legible := by
  refine .object fun member inside => ?_
  obtain ⟨pair, -, rfl⟩ := (mem_foldedMembers_iff distinct).mp inside
  exact legible_attributeJson table pair.1 pair.2

/-- The values of a reply of flat records after its count: each key with its attributes. -/
def recordValues (records : List (String × List (String × String))) : List WireValue :=
  records.flatMap fun record =>
    [.bulk record.1.toUTF8,
      .array (inTurn (record.2.map fun pair => (.bulk pair.1.toUTF8, .bulk pair.2.toUTF8)))]

/-- The reply of an index of flat records: a count, then each key with its attributes. -/
def ofRecords (count : Int64) (records : List (String × List (String × String))) : WireValue :=
  .array (.int count :: recordValues records)

/-- The hits of a reply of flat records are their keys with the documents that their attributes are
folded into. -/
theorem hits?_recordValues (table : FieldTable)
    {records : List (String × List (String × String))}
    (other : ∀ record ∈ records, ∀ pair ∈ record.2, pair.1 ≠ documentName) :
    hits? table (recordValues records) =
      .ok (records.map fun record => ⟨record.1, (folded table record.2).write⟩) := by
  induction records with
  | nil => rfl
  | cons record records step =>
    have rest := step fun later inside => other later (.tail _ inside)
    have reads : List.Forall₂ EntryReads
        (record.2.map fun pair => (WireValue.bulk pair.1.toUTF8, WireValue.bulk pair.2.toUTF8))
        record.2 :=
      List.forall₂_map_left_iff.mpr (List.forall₂_same.mpr fun _ _ => ⟨.bulk _, .bulk _⟩)
    have payload : payload? table record.1 _ = .ok (folded table record.2).write :=
      payload?_of_reads reads (other record (.head _)) record.1
    change hits? table (.bulk record.1.toUTF8 :: .array _ :: recordValues records) = _
    rw [hits?, WireValue.text?_eq_ok_iff.mpr (.bulk record.1)]
    change (payload? table record.1 _ >>= _) = _
    rw [payload, rest]
    rfl

end Reply

/-- The reply of an index of flat records is read as one hit for each record, in order. -/
theorem Answer.read_ofRecords (table : FieldTable) {count : Int64} (natural : 0 ≤ count.toInt)
    {records : List (String × List (String × String))}
    (other : ∀ record ∈ records, ∀ pair ∈ record.2, pair.1 ≠ Reply.documentName) :
    read table (Reply.ofRecords count records) =
      .ok ⟨records.map fun record => ⟨record.1, (Reply.folded table record.2).write⟩,
        Nat.max count.toInt.toNat records.length⟩ := by
  have hits := Reply.hits?_recordValues table other
  rw [read_eq_ok_iff]
  simp only [Reply.ofRecords, ofReply?, if_pos natural, hits, bind, Except.bind, Answer.of,
    List.length_map]

end FilmFinder
