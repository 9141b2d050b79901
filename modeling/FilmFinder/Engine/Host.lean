import FilmFinder.Number.Numeral
import FilmFinder.Text.Bytes

/-!
# Hosts

A host is the name of a machine, or eight groups of 16 bits between brackets. The groups
are hexadecimal numbers between colons; two of them may be written as four decimal octets
at the end, and one run of zero groups as two colons in a row.
-/
namespace FilmFinder

/-- What names a machine. -/
inductive Host where
  /-- A name, which may be that of a number in decimal. -/
  | name (characters : List Char)
  /-- Eight groups of 16 bits. -/
  | groups
  deriving DecidableEq

namespace Host

/-- One group: one to four hexadecimal digits. -/
def isGroup (characters : List Char) : Bool :=
  1 ≤ characters.length && characters.length ≤ 4 &&
    characters.all fun digit => (Text.hexadecimalValue? digit).isSome

/-- One octet: a decimal number below 256 without a zero in front. -/
def isOctet (characters : List Char) : Bool :=
  !characters.isEmpty && characters.all Char.isDigit && digitsValue 0 characters < 256 &&
    (characters.length == 1 || characters.head? != some '0')

/-- Four octets between points. -/
def areOctets (characters : List Char) : Bool :=
  let octets := characters.splitOn '.'
  octets.length == 4 && octets.all isOctet

/-- How many groups are written; the last two may be octets if they end the host. -/
def groupCount? (atEnd : Bool) : List (List Char) → Option Nat
  | [] => some 0
  | [last] =>
    if isGroup last then some 1
    else if atEnd && areOctets last then some 2
    else none
  | group :: rest => if isGroup group then (groupCount? atEnd rest).map (· + 1) else none

/-- The parts of a host between colons; nothing has no part. -/
def parts (characters : List Char) : List (List Char) :=
  if characters.isEmpty then [] else characters.splitOn ':'

/-- What stands before and after the first two colons in a row. -/
def splitRun? : List Char → Option (List Char × List Char)
  | [] => none
  | ':' :: ':' :: rest => some ([], rest)
  | character :: rest => (splitRun? rest).map fun (before, after) => (character :: before, after)

/-- Whether characters write eight groups. Two colons in a row stand for at least one. -/
def areGroups (characters : List Char) : Bool :=
  match splitRun? characters with
  | none => groupCount? true (parts characters) == some 8
  | some (before, after) =>
    match groupCount? false (parts before), groupCount? true (parts after) with
    | some front, some back => front + back < 8
    | _, _ => false

/-- A character that no name has. -/
def isForbidden (character : Char) : Bool :=
  ['\x00', '\t', '\n', '\r', ' ', '#', '/', ':', '<', '>', '?', '@', '[', '\\', ']', '^',
    '|'].contains character

/-- The host that characters write, if they write one. -/
def ofCharacters? (characters : List Char) : Option Host :=
  match characters with
  | [] => none
  | '[' :: rest =>
    if rest.getLast? == some ']' && areGroups rest.dropLast then some .groups else none
  | _ => if characters.any isForbidden then none else some (.name characters)

end Host

end FilmFinder
