import FilmFinder.Answer
import FilmFinder.Json.Reader
import FilmFinder.Json.Value
import FilmFinder.Wire.Value

/-!
# Search replies

A search reply is a list: the number of all matches, then for each hit its key and the list of
its attributes, names and values in turn. The attribute `$` holds the whole document, which
becomes the payload as it stands. Otherwise the attributes become a JSON object with its
keys in order: an attribute that the field table declares numeric is a number when its text
is one, every other value is a string, and of attributes with one name the last counts.
-/
namespace FilmFinder

/-- Why a value is no search reply. -/
inductive ReplyFault where
  /-- The value is no list. -/
  | notList (value : WireValue)
  /-- The list does not start with a count. -/
  | noCount (found : Option WireValue)
  /-- A key is not followed by a list. -/
  | noAttributes (key : String) (found : Option WireValue)
  /-- A name in an attribute list has no value. -/
  | oddAttributes (key : String)
  /-- A value that should be a text is none. -/
  | notText (value : WireValue)
  /-- Bytes that should be a text are none. -/
  | notUtf8 (fault : Text.Utf8Fault)

/-- The fault in words. -/
def ReplyFault.message : ReplyFault → String
  | .notList value => "expected array reply, got " ++ value.shown
  | .noCount found => "expected total count, got " ++ WireValue.shownOption found
  | .noAttributes key found =>
    "hit '" ++ key ++ "' has no attribute list, got " ++ WireValue.shownOption found
  | .oddAttributes key => "hit '" ++ key ++ "' has an odd number of attribute entries"
  | .notText value => "expected string, got " ++ value.shown
  | .notUtf8 fault => "non UTF-8 string: " ++ fault.message

/-- The text of a value: a byte string in UTF-8, a status line, or an integer in decimal. -/
def WireValue.text? : WireValue → Except ReplyFault String
  | .bulk bytes =>
    match Text.decodeUtf8 bytes with
    | .ok text => .ok text
    | .error fault => .error (.notUtf8 fault)
  | .simple text => .ok text
  | .int value => .ok value.toInt.repr
  | value => .error (.notText value)

namespace Reply

/-- The name of the attribute that holds a whole document. -/
def documentName : String := "$"

/-- The attributes of a document by name, in order. -/
abbrev AttributeTable := Keyed (String × Json) Prod.fst

/-- A numeral in its usual form: an integer that fits a 64-bit word as it is, any other number as
JSON numbers are written. None when the number is not finite. -/
def usualNumeral? (numeral : Numeral) : Option Json :=
  match numeral.integer? with
  | some value => some (.ofInt value)
  | none => numeral.scaled?.map Json.ofFinite

/-- The JSON value of an attribute: a number when the field table declares the name numeric and
the text is one, else a string. -/
def attributeJson (table : FieldTable) (name text : String) : Json :=
  if table.isNumeric name then
    match Json.read? text with
    | some (.number numeral) => (usualNumeral? numeral).getD (.ofText text)
    | _ => .ofText text
  else .ofText text

/-- The payload of a list of attributes, after those that are in the table. -/
def payloadFrom? (table : FieldTable) (key : String) (seen : AttributeTable) :
    List WireValue → Except ReplyFault String
  | [] => .ok (Json.record seen.items).write
  | [_] => .error (.oddAttributes key)
  | name :: value :: rest => do
    let name ← name.text?
    let text ← value.text?
    if name = documentName then .ok text
    else payloadFrom? table key (seen.insert (name, attributeJson table name text)) rest

/-- The payload of a list of attributes. -/
def payload? (table : FieldTable) (key : String) (attributes : List WireValue) :
    Except ReplyFault String :=
  if attributes.length % 2 = 0 then payloadFrom? table key .empty attributes
  else .error (.oddAttributes key)

/-- The hits of a reply after its count. -/
def hits? (table : FieldTable) : List WireValue → Except ReplyFault (List Hit)
  | [] => .ok []
  | [key] => do
    let key ← key.text?
    .error (.noAttributes key none)
  | key :: found :: rest => do
    let key ← key.text?
    match found with
    | .array attributes => do
      let payload ← payload? table key attributes
      let hits ← hits? table rest
      .ok (⟨key, payload⟩ :: hits)
    | other => .error (.noAttributes key (some other))

end Reply

/-- The answer that a reply holds. -/
def Answer.ofReply? (table : FieldTable) : WireValue → Except ReplyFault Answer
  | .array (.int count :: rest) =>
    if 0 ≤ count.toInt then do
      let hits ← Reply.hits? table rest
      .ok (.of hits count.toInt.toNat)
    else .error (.noCount (some (.int count)))
  | .array items => .error (.noCount items.head?)
  | value => .error (.notList value)

/-- The answer that a reply holds, or the failure of the engine that sent it. -/
def Answer.read (table : FieldTable) (reply : WireValue) : Except EngineError Answer :=
  match Answer.ofReply? table reply with
  | .ok answer => .ok answer
  | .error fault => .error (.malformedReply fault.message)

end FilmFinder
