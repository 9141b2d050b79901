/-!
# Bytes and characters

Bytes that stand for text are UTF-8. In an address a byte may be written as a percent sign
and two hexadecimal digits; every other character stands for the bytes that encode it, also
a percent sign without two digits behind it. Bytes from an engine are text when they are
UTF-8. When they are not, the fault names the first byte that starts no character: either
the bytes end inside a character, or a sequence of one to three bytes can be the start of
none.
-/
namespace FilmFinder.Text

/-- The value of a hexadecimal digit. -/
def hexadecimalValue? (digit : Char) : Option Nat :=
  if '0' ≤ digit ∧ digit ≤ '9' then some (digit.toNat - '0'.toNat)
  else if 'a' ≤ digit ∧ digit ≤ 'f' then some (digit.toNat - 'a'.toNat + 10)
  else if 'A' ≤ digit ∧ digit ≤ 'F' then some (digit.toNat - 'A'.toNat + 10)
  else none

/-- The last `places` hexadecimal digits of a number, in lower case. -/
def hexadecimal : (places : Nat) → (value : Nat) → List Char
  | 0, _ => []
  | places + 1, value => hexadecimal places (value / 16) ++ [Nat.digitChar (value % 16)]

/-- As many digits are written as there are places. -/
theorem length_hexadecimal (places value : Nat) : (hexadecimal places value).length = places := by
  induction places generalizing value with
  | zero => rfl
  | succ places step => simp [hexadecimal, step]

/-- The bytes that percent-encoded characters stand for. -/
def percentBytes : List Char → List UInt8
  | [] => []
  | '%' :: first :: second :: rest =>
    match hexadecimalValue? first, hexadecimalValue? second with
    | some high, some low => UInt8.ofNat (16 * high + low) :: percentBytes rest
    | _, _ => String.utf8EncodeChar '%' ++ percentBytes (first :: second :: rest)
  | character :: rest => String.utf8EncodeChar character ++ percentBytes rest

/-- Percent-encoded characters stand for a text. -/
def isPercentText (characters : List Char) : Bool :=
  (String.fromUTF8? (percentBytes characters).toByteArray).isSome

/-- The bytes that a part of an address parameter stands for, where a plus sign is a space. -/
def parameterBytes (characters : List Char) : List UInt8 :=
  percentBytes (characters.map fun character => if character == '+' then ' ' else character)

/-- Why some bytes are not UTF-8. -/
inductive Utf8Fault where
  /-- The `length` bytes from `index` on cannot be the start of a character. -/
  | invalid (length index : Nat)
  /-- The bytes from `index` on end inside a character. -/
  | incomplete (index : Nat)
  deriving DecidableEq

/-- The fault in words. -/
def Utf8Fault.message : Utf8Fault → String
  | .invalid length index =>
    "invalid utf-8 sequence of " ++ length.repr ++ " bytes from index " ++ index.repr
  | .incomplete index => "incomplete utf-8 byte sequence from index " ++ index.repr

/-- The inclusive ranges that the bytes after a leading byte lie in; none for a byte that
leads no character. -/
def continuationRanges (lead : Nat) : Option (List (Nat × Nat)) :=
  if lead < 0x80 then some []
  else if lead < 0xC2 then none
  else if lead < 0xE0 then some [(0x80, 0xBF)]
  else if lead = 0xE0 then some [(0xA0, 0xBF), (0x80, 0xBF)]
  else if lead = 0xED then some [(0x80, 0x9F), (0x80, 0xBF)]
  else if lead < 0xF0 then some [(0x80, 0xBF), (0x80, 0xBF)]
  else if lead = 0xF0 then some [(0x90, 0xBF), (0x80, 0xBF), (0x80, 0xBF)]
  else if lead < 0xF4 then some [(0x80, 0xBF), (0x80, 0xBF), (0x80, 0xBF)]
  else if lead = 0xF4 then some [(0x80, 0x8F), (0x80, 0xBF), (0x80, 0xBF)]
  else none

/-- Compare the bytes after a leading byte with their ranges: the fault of a character that
starts at `index` and of which `seen` bytes are read, or none when all ranges are met. -/
def continuationFault? (index seen : Nat) : List (Nat × Nat) → List UInt8 → Option Utf8Fault
  | [], _ => none
  | _ :: _, [] => some (.incomplete index)
  | range :: ranges, byte :: bytes =>
    if range.1 ≤ byte.toNat ∧ byte.toNat ≤ range.2 then
      continuationFault? index (seen + 1) ranges bytes
    else some (.invalid seen index)

/-- The first fault of the bytes that follow `index` others, of which the first `skip` belong
to a character already read. -/
def utf8FaultFrom? (index skip : Nat) : List UInt8 → Option Utf8Fault
  | [] => none
  | byte :: bytes =>
    match skip with
    | skip + 1 => utf8FaultFrom? (index + 1) skip bytes
    | 0 =>
      match continuationRanges byte.toNat with
      | none => some (.invalid 1 index)
      | some ranges =>
        match continuationFault? index 1 ranges bytes with
        | some fault => some fault
        | none => utf8FaultFrom? (index + 1) ranges.length bytes

/-- The text that bytes encode, or the first fault of bytes that encode none. -/
def decodeUtf8 (bytes : ByteArray) : Except Utf8Fault String :=
  match String.fromUTF8? bytes with
  | some text => .ok text
  | none => .error ((utf8FaultFrom? 0 0 bytes.toList).getD (.incomplete bytes.size))

end FilmFinder.Text
