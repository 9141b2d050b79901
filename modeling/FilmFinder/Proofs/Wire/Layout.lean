import FilmFinder.Proofs.Chain
import FilmFinder.Wire.Reply
import Mathlib.Data.List.Forall2

/-!
# The layout of a search reply

A value is read as an answer exactly when it is laid out as one: a list of a count and then, for
each hit in turn, a key and a list of attributes. Attributes are read in pairs of a name and a
value up to the pair that holds the document; what follows that pair is not looked at. Every
other value is a malformed reply.
-/
namespace FilmFinder

/-- The text that a value reads as: bytes as the text that they encode, a status line as it is and
an integer in decimal. -/
inductive WireValue.ReadsAs : WireValue → String → Prop
  /-- The bytes encode the text. -/
  | bulk (text : String) : ReadsAs (.bulk text.toUTF8) text
  /-- The status line is the text. -/
  | simple (text : String) : ReadsAs (.simple text) text
  /-- The text is the integer in decimal. -/
  | int (value : Int64) : ReadsAs (.int value) value.toInt.repr

/-- Bytes decode to a text exactly when they encode it. -/
theorem Text.decodeUtf8_eq_ok_iff {bytes : ByteArray} {text : String} :
    decodeUtf8 bytes = .ok text ↔ bytes = text.toUTF8 := by
  unfold decodeUtf8 String.fromUTF8?
  constructor
  · intro decoded
    by_cases valid : bytes.IsValidUTF8
    · rw [dif_pos valid] at decoded
      cases Except.ok.inj decoded
      rfl
    · rw [dif_neg valid] at decoded
      contradiction
  · rintro rfl
    have valid : text.toUTF8.IsValidUTF8 := text.isValidUTF8
    rw [dif_pos valid]
    rfl

/-- A value has a text exactly when it reads as that text. -/
theorem WireValue.text?_eq_ok_iff {value : WireValue} {text : String} :
    value.text? = .ok text ↔ value.ReadsAs text := by
  constructor
  · intro read
    cases value with
    | bulk bytes =>
      cases decoded : Text.decodeUtf8 bytes with
      | error fault =>
        simp only [text?, decoded] at read
        contradiction
      | ok found =>
        simp only [text?, decoded] at read
        cases Except.ok.inj read
        cases Text.decodeUtf8_eq_ok_iff.mp decoded
        exact .bulk _
    | simple line =>
      cases Except.ok.inj read
      exact .simple _
    | int number =>
      cases Except.ok.inj read
      exact .int number
    | _ => contradiction
  · intro reads
    cases reads with
    | bulk => simp only [text?, Text.decodeUtf8_eq_ok_iff.mpr rfl]
    | simple => rfl
    | int => rfl

namespace Reply

/-- The values of an attribute list: names and values in turn. -/
def inTurn (entries : List (WireValue × WireValue)) : List WireValue :=
  entries.flatMap fun entry => [entry.1, entry.2]

/-- Attributes that read as names and values up to the document, and the document if there
is one. -/
inductive Attributes : List (WireValue × WireValue) → Option String → Prop
  /-- No attribute is left, and none was the document. -/
  | absent : Attributes [] none
  /-- The document, whatever follows it. -/
  | document {name value : WireValue} {text : String} {later : List (WireValue × WireValue)}
    (named : name.ReadsAs documentName) (read : value.ReadsAs text) :
    Attributes ((name, value) :: later) (some text)
  /-- Another attribute. -/
  | other {name value : WireValue} {label text : String} {later : List (WireValue × WireValue)}
    {document : Option String} (named : name.ReadsAs label) (different : label ≠ documentName)
    (read : value.ReadsAs text) (rest : Attributes later document) :
    Attributes ((name, value) :: later) document

/-- The values after the count of a reply, with the key and the document of each hit. -/
inductive Hits : List WireValue → List (String × Option String) → Prop
  /-- No value is left. -/
  | none : Hits [] []
  /-- A key and its attributes. -/
  | hit {key : WireValue} {name : String} {attributes : List (WireValue × WireValue)}
    {document : Option String} {values : List WireValue} {reads : List (String × Option String)}
    (named : key.ReadsAs name) (read : Attributes attributes document) (rest : Hits values reads) :
    Hits (key :: .array (inTurn attributes) :: values) ((name, document) :: reads)

/-- A reply with its count, and with the key and the document of each hit. -/
inductive Layout : WireValue → Nat → List (String × Option String) → Prop
  /-- A list of a count and hits. -/
  | reply {count : Int64} {values : List WireValue} {reads : List (String × Option String)}
    (natural : 0 ≤ count.toInt) (hits : Hits values reads) :
    Layout (.array (.int count :: values)) count.toInt.toNat reads

/-- A hit has the key and the document that were read; without a document any payload will do. -/
structure Carries (hit : Hit) (read : String × Option String) : Prop where
  /-- The key is the one that was read. -/
  key_eq : hit.key = read.1
  /-- The payload is the document. -/
  payload_eq : ∀ document, read.2 = some document → hit.payload = document

/-- As many names as values make an even number. -/
theorem length_inTurn (entries : List (WireValue × WireValue)) :
    (inTurn entries).length = entries.length * 2 := by
  induction entries with
  | nil => rfl
  | cons entry entries step =>
    change (inTurn entries).length + 2 = (entries.length + 1) * 2
    omega

/-- An even number of values are names and values in turn. -/
theorem exists_inTurn : (values : List WireValue) → values.length % 2 = 0 →
    ∃ entries, values = inTurn entries
  | [], _ => ⟨[], rfl⟩
  | [_], odd => absurd (show 1 % 2 = 0 from odd) (by decide)
  | name :: value :: rest, even => by
    have evenRest : rest.length % 2 = 0 := by
      simp only [List.length_cons] at even
      omega
    obtain ⟨entries, rfl⟩ := exists_inTurn rest evenRest
    exact ⟨(name, value) :: entries, rfl⟩

variable {table : FieldTable} {key : String}

/-- Attributes with a payload read up to their document. -/
theorem attributes_of_payloadFrom? {seen : AttributeTable}
    {entries : List (WireValue × WireValue)} {payload : String}
    (done : payloadFrom? table key seen (inTurn entries) = .ok payload) :
    ∃ document, Attributes entries document := by
  induction entries generalizing seen with
  | nil => exact ⟨none, .absent⟩
  | cons entry entries step =>
    obtain ⟨name, value⟩ := entry
    change payloadFrom? table key seen (name :: value :: inTurn entries) = _ at done
    unfold payloadFrom? at done
    obtain ⟨label, named, done⟩ := exists_of_bind_eq_ok done
    obtain ⟨text, read, done⟩ := exists_of_bind_eq_ok done
    rw [WireValue.text?_eq_ok_iff] at named read
    by_cases isDocument : label = documentName
    · subst isDocument
      exact ⟨some text, .document named read⟩
    · rw [if_neg isDocument] at done
      obtain ⟨document, rest⟩ := step done
      exact ⟨document, .other named isDocument read rest⟩

/-- Attributes that read up to their document have a payload, which is the document if there is
one. -/
theorem payloadFrom?_of_attributes {entries : List (WireValue × WireValue)}
    {document : Option String} (read : Attributes entries document) (seen : AttributeTable) :
    ∃ payload, payloadFrom? table key seen (inTurn entries) = .ok payload ∧
      ∀ text, document = some text → payload = text := by
  induction read generalizing seen with
  | absent => exact ⟨_, rfl, fun _ present => nomatch present⟩
  | @document name value text later named read =>
    refine ⟨text, ?_, fun _ same => Option.some.inj same⟩
    change payloadFrom? table key seen (name :: value :: inTurn later) = _
    unfold payloadFrom?
    rw [WireValue.text?_eq_ok_iff.mpr named, WireValue.text?_eq_ok_iff.mpr read]
    rfl
  | @other name value label text later document named different read rest step =>
    obtain ⟨payload, done, same⟩ := step (seen.insert (label, attributeJson table label text))
    refine ⟨payload, ?_, same⟩
    change payloadFrom? table key seen (name :: value :: inTurn later) = _
    unfold payloadFrom?
    rw [WireValue.text?_eq_ok_iff.mpr named, WireValue.text?_eq_ok_iff.mpr read]
    change (if label = documentName then _ else _) = _
    rw [if_neg different]
    exact done

/-- An attribute list with a payload is names and values in turn that read up to their document. -/
theorem attributes_of_payload? {values : List WireValue} {payload : String}
    (done : payload? table key values = .ok payload) :
    ∃ entries document, values = inTurn entries ∧ Attributes entries document := by
  unfold payload? at done
  by_cases even : values.length % 2 = 0
  · rw [if_pos even] at done
    obtain ⟨entries, rfl⟩ := exists_inTurn values even
    obtain ⟨document, read⟩ := attributes_of_payloadFrom? done
    exact ⟨entries, document, rfl, read⟩
  · rw [if_neg even] at done
    contradiction

/-- Names and values in turn that read up to their document have a payload. -/
theorem payload?_of_attributes {entries : List (WireValue × WireValue)} {document : Option String}
    (read : Attributes entries document) :
    ∃ payload, payload? table key (inTurn entries) = .ok payload ∧
      ∀ text, document = some text → payload = text := by
  have even : (inTurn entries).length % 2 = 0 := by
    rw [length_inTurn]
    exact Nat.mul_mod_left _ 2
  unfold payload?
  rw [if_pos even]
  exact payloadFrom?_of_attributes read .empty

/-- Values that hits are read from are laid out as hits. -/
theorem hits_of_hits? {values : List WireValue} {hits : List Hit}
    (done : hits? table values = .ok hits) : ∃ reads, Hits values reads := by
  fun_induction hits? table values generalizing hits with
  | case1 => exact ⟨[], .none⟩
  | case2 key =>
    obtain ⟨name, -, done⟩ := exists_of_bind_eq_ok done
    contradiction
  | case3 key found rest step =>
    obtain ⟨name, named, done⟩ := exists_of_bind_eq_ok done
    cases found with
    | array values =>
      obtain ⟨payload, read, done⟩ := exists_of_bind_eq_ok done
      obtain ⟨later, found, -⟩ := exists_of_bind_eq_ok done
      obtain ⟨entries, document, rfl, entriesRead⟩ := attributes_of_payload? read
      obtain ⟨reads, laidOut⟩ := step found
      exact ⟨(name, document) :: reads,
        .hit (WireValue.text?_eq_ok_iff.mp named) entriesRead laidOut⟩
    | _ => contradiction

/-- Values that are laid out as hits give one hit for each key, in order. -/
theorem hits?_of_hits (table : FieldTable) {values : List WireValue}
    {reads : List (String × Option String)} (laidOut : Hits values reads) :
    ∃ hits, hits? table values = .ok hits ∧ List.Forall₂ Carries hits reads := by
  induction laidOut with
  | none => exact ⟨[], rfl, .nil⟩
  | @hit key name entries document values reads named read rest step =>
    obtain ⟨hits, done, carried⟩ := step
    obtain ⟨payload, held, same⟩ := payload?_of_attributes read
    refine ⟨⟨name, payload⟩ :: hits, ?_, .cons ⟨rfl, same⟩ carried⟩
    unfold hits?
    rw [WireValue.text?_eq_ok_iff.mpr named]
    change (payload? table name (inTurn entries) >>= _) = _
    rw [held, done]
    rfl

/-- A value that an answer is read from is laid out as a reply. -/
theorem layout_of_ofReply? {value : WireValue} {answer : Answer}
    (done : Answer.ofReply? table value = .ok answer) :
    ∃ count reads, Layout value count reads := by
  unfold Answer.ofReply? at done
  split at done
  · rename_i count values
    by_cases natural : 0 ≤ count.toInt
    · rw [if_pos natural] at done
      obtain ⟨hits, found, -⟩ := exists_of_bind_eq_ok done
      obtain ⟨reads, laidOut⟩ := hits_of_hits? found
      exact ⟨_, reads, .reply natural laidOut⟩
    · rw [if_neg natural] at done
      contradiction
  · contradiction
  · contradiction

/-- A value that is laid out as a reply gives an answer with the hits that were read and with the
greater of both counts. -/
theorem ofReply?_of_layout (table : FieldTable) {value : WireValue} {count : Nat}
    {reads : List (String × Option String)} (layout : Layout value count reads) :
    ∃ answer, Answer.ofReply? table value = .ok answer ∧
      List.Forall₂ Carries answer.hits reads ∧
      answer.total = Nat.max count answer.hits.length := by
  cases layout with
  | @reply count values reads natural laidOut =>
    obtain ⟨hits, found, carried⟩ := hits?_of_hits table laidOut
    refine ⟨.of hits count.toInt.toNat, ?_, carried, rfl⟩
    simp only [Answer.ofReply?, if_pos natural, found]
    rfl

end Reply

/-- An answer is read exactly when a reply gives one. -/
theorem Answer.read_eq_ok_iff {table : FieldTable} {value : WireValue} {answer : Answer} :
    read table value = .ok answer ↔ ofReply? table value = .ok answer := by
  unfold read
  cases ofReply? table value with
  | ok found => simp only [Except.ok.injEq]
  | error fault => simp only [reduceCtorEq]

/-- A reply that gives no answer is malformed. -/
theorem Answer.malformed_of_read {table : FieldTable} {value : WireValue} {failure : EngineError}
    (failed : read table value = .error failure) :
    ∃ detail, failure = .malformedReply detail := by
  unfold read at failed
  cases reply : ofReply? table value with
  | ok found =>
    rw [reply] at failed
    contradiction
  | error fault =>
    rw [reply] at failed
    exact ⟨fault.message, (Except.error.inj failed).symm⟩

/-- A value gives an answer exactly when it is laid out as a reply, and the answer then has one hit
for each key, in order, with the document as its payload where there is one, and counts what the
reply counts or its hits if these are more. Every other value is a malformed reply, which asking
again does not help. -/
theorem Answer.read_ok_iff_layout (table : FieldTable) (value : WireValue) :
    ((∃ answer, read table value = .ok answer) ↔
        ∃ count reads, Reply.Layout value count reads) ∧
      (∀ count reads, Reply.Layout value count reads →
        ∀ answer, read table value = .ok answer →
          List.Forall₂ Reply.Carries answer.hits reads ∧
            answer.total = Nat.max count answer.hits.length) ∧
      ((∀ count reads, ¬ Reply.Layout value count reads) →
        ∃ detail, read table value = .error (.malformedReply detail) ∧
          (EngineError.malformedReply detail).isTransient = false) := by
  refine ⟨⟨?_, ?_⟩, ?_, ?_⟩
  · rintro ⟨answer, done⟩
    exact Reply.layout_of_ofReply? (read_eq_ok_iff.mp done)
  · rintro ⟨count, reads, layout⟩
    obtain ⟨answer, done, -⟩ := Reply.ofReply?_of_layout table layout
    exact ⟨answer, read_eq_ok_iff.mpr done⟩
  · intro count reads layout answer done
    obtain ⟨given, found, carried, counted⟩ := Reply.ofReply?_of_layout table layout
    cases found.symm.trans (read_eq_ok_iff.mp done)
    exact ⟨carried, counted⟩
  · intro noLayout
    cases done : read table value with
    | ok answer =>
      obtain ⟨count, reads, layout⟩ := Reply.layout_of_ofReply? (read_eq_ok_iff.mp done)
      exact absurd layout (noLayout count reads)
    | error failure =>
      obtain ⟨detail, rfl⟩ := malformed_of_read done
      exact ⟨detail, rfl, rfl⟩

/-- A reply with one hit is read although values behind its document are no texts. -/
theorem Answer.read_ok_iff_layout_film :
    let entries := [(WireValue.simple "$", WireValue.bulk "\x7b\x7d".toUTF8), (.nil, .nil)]
    let reply := WireValue.array [.int 0, .bulk "film:1".toUTF8, .array (Reply.inTurn entries)]
    Reply.Layout reply 0 [("film:1", some "\x7b\x7d")] ∧
      ∃ answer, read FieldTable.films reply = .ok answer ∧
        List.Forall₂ Reply.Carries answer.hits [("film:1", some "\x7b\x7d")] ∧
        answer.total = Nat.max 0 answer.hits.length := by
  intro entries reply
  have readEntries : Reply.Attributes entries (some "\x7b\x7d") := .document (.simple _) (.bulk _)
  have layout : Reply.Layout reply 0 [("film:1", some "\x7b\x7d")] :=
    .reply (by decide) (.hit (.bulk _) readEntries .none)
  obtain ⟨reads, holds, -⟩ := read_ok_iff_layout FieldTable.films reply
  obtain ⟨answer, done⟩ := reads.mpr ⟨_, _, layout⟩
  exact ⟨layout, answer, done, holds _ _ layout answer done⟩

end FilmFinder
