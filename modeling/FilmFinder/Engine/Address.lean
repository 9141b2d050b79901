import FilmFinder.Engine.Host
import FilmFinder.Number.Numeral
import FilmFinder.Text.Bytes

/-!
# Engine addresses

An address is taken apart as it is written: a protocol, a login, a host, a path and
parameters. It names an engine on a machine, with a database as its path, or an engine
behind a socket file, with a database among its parameters. No part is looked up here: an
address that names an engine may still lead nowhere.
-/
namespace FilmFinder

/-- How an engine is reached. -/
inductive Protocol where
  /-- Over a line to a machine. -/
  | machine
  /-- Through a socket file. -/
  | socket
  deriving DecidableEq

/-- The protocol with a name in lower case. -/
def Protocol.ofName? : String → Option Protocol
  | "redis" => some .machine
  | "unix" | "redis+unix" => some .socket
  | _ => none

/-- The parts of an address. -/
structure Address where
  /-- How the engine is reached. -/
  protocol : Protocol
  /-- A name and a password, with a colon in between. -/
  login : List Char
  /-- What names the machine, if anything does. -/
  host : Option Host
  /-- The segments of the path; none for a path that does not start with a slash. -/
  path : Option (List (List Char))
  /-- The parameters as they are written. -/
  parameters : List Char

namespace Address

/-- The characters that count in an address: blanks and controls around the others do not, nor
do tabs and line ends anywhere. -/
def visible (text : String) : List Char :=
  let isOuter (character : Char) : Bool := character.toNat ≤ 0x20
  let inner := ((text.toList.dropWhile isOuter).reverse.dropWhile isOuter).reverse
  inner.filter fun character => !(['\t', '\n', '\r'].contains character)

/-! ### Paths -/

/-- A segment with its encoded points written as points. -/
def withPoints : List Char → List Char
  | [] => []
  | '%' :: '2' :: 'e' :: rest => '.' :: withPoints rest
  | '%' :: '2' :: 'E' :: rest => '.' :: withPoints rest
  | character :: rest => character :: withPoints rest

/-- Whether a segment is the letter of a drive, which no segment leads out of. -/
def isDrive : List Char → Bool
  | letter :: mark :: rest =>
    letter.isAlpha && (mark == ':' || mark == '|') && (rest.isEmpty || rest.head? == some '\\')
  | _ => false

/-- The segments above the last one. -/
def parent : List (List Char) → List (List Char)
  | [] => []
  | last :: others => if isDrive last then last :: others else others

/-- The segments that a path leads to: one point stays, two points go back to the parent, and
either of them at the end leaves an empty segment. The segments so far are in reverse. -/
def resolve : (before : List (List Char)) → List (List Char) → List (List Char)
  | before, [] => before.reverse
  | before, segment :: rest =>
    let isLast := rest.isEmpty
    match withPoints segment with
    | ['.'] => resolve (if isLast then [] :: before else before) rest
    | ['.', '.'] => resolve (if isLast then [] :: parent before else parent before) rest
    | _ => resolve (segment :: before) rest

/-- The segments of a path. -/
def segments? : List Char → Option (List (List Char))
  | '/' :: rest => some (resolve [] (rest.splitOn '/'))
  | _ => none

/-! ### Machines -/

/-- The characters of a place up to the colon that ends its host; between brackets no colon
ends it. -/
def hostCharacters : (bracketed : Bool) → List Char → List Char
  | _, [] => []
  | bracketed, character :: rest =>
    if character == ':' && !bracketed then []
    else
      character ::
        hostCharacters (character == '[' || (bracketed && character != ']')) rest

/-- What follows the number after a host, when there is a colon and a number of 16 bits, or
no digit, after it. A backslash ends the number and starts a path. -/
def afterNumber? : List Char → Option (List Char)
  | [] => some []
  | _ :: rest =>
    let left := rest.dropWhile Char.isDigit
    if digitsValue 0 (rest.takeWhile Char.isDigit) < 65536 then
      match left with
      | [] => some []
      | '\\' :: _ => some ('/' :: left)
      | _ => none
    else none

/-- The address on a machine. A login or a number needs a host, but a login of one colon is
none. -/
def ofMachine? (protocol : Protocol) (authority path parameters : List Char) : Option Address := do
  let place := (authority.reverse.takeWhile (· != '@')).reverse
  let login := authority.take (authority.length - place.length - 1)
  let host := hostCharacters false place
  let number := place.drop host.length
  if host.isEmpty then
    if number.isEmpty && (!authority.contains '@' || login == [':']) then
      some ⟨protocol, [], none, segments? path, parameters⟩
    else none
  else
    let front ← afterNumber? number
    some ⟨protocol, login, ← Host.ofCharacters? host, segments? (front ++ path), parameters⟩

/-- Take an address apart. -/
def ofText? (text : String) : Option Address := do
  let characters := (visible text).takeWhile (· != '#')
  let name := (characters.takeWhile (· != ':')).map Char.toLower
  let protocol ← Protocol.ofName? (String.ofList name)
  let rest := (characters.dropWhile (· != ':')).drop 1
  let parameters := (rest.dropWhile (· != '?')).drop 1
  match rest.takeWhile (· != '?') with
  | '/' :: '/' :: body =>
    ofMachine? protocol (body.takeWhile (· != '/')) (body.dropWhile (· != '/')) parameters
  | path => some ⟨protocol, [], none, segments? path, parameters⟩

/-! ### Engines -/

/-- The bytes that the last parameter with a name stands for. -/
def parameter? (address : Address) (name : String) : Option (List UInt8) :=
  let pairs := (address.parameters.splitOn '&').map fun pair =>
    (Text.parameterBytes (pair.takeWhile (· != '=')),
      Text.parameterBytes ((pair.dropWhile (· != '=')).drop 1))
  (pairs.reverse.find? (·.1 == name.toUTF8.toList)).map (·.2)

/-- Whether digits, at least one, read as a number below a bound. -/
def isNumberBelow (bound : Nat) (digits : List Char) : Bool :=
  !digits.isEmpty && digits.all Char.isDigit && digitsValue 0 digits < bound

/-- Whether characters read as the number of a database, a signed number of 64 bits. -/
def isDatabase : List Char → Bool
  | '-' :: digits => isNumberBelow (signedBound + 1) digits
  | '+' :: digits => isNumberBelow signedBound digits
  | digits => isNumberBelow signedBound digits

/-- Whether a path is empty or the number of a database, slashes around it aside. -/
def isDatabasePath (path : List (List Char)) : Bool :=
  match ((path.dropWhile List.isEmpty).reverse.dropWhile List.isEmpty).reverse with
  | [] => true
  | [number] => isDatabase number
  | _ => false

/-- Whether the name and the password of the login are texts. -/
def hasReadableLogin (address : Address) : Bool :=
  Text.isPercentText (address.login.takeWhile (· != ':')) &&
    Text.isPercentText ((address.login.dropWhile (· != ':')).drop 1)

/-- Whether the reply format that the parameters ask for, if any, is known. -/
def hasKnownFormat (address : Address) : Bool :=
  (address.parameter? "protocol").all fun format =>
    ["2", "resp2", "3", "resp3"].any fun known => known.toUTF8.toList == format

/-- Whether the address names an engine. -/
def namesEngine (address : Address) : Bool :=
  match address.protocol with
  | .machine =>
    address.host.isSome && address.path.all isDatabasePath && address.hasReadableLogin &&
      address.hasKnownFormat
  | .socket =>
    address.host.all (· == .name "localhost".toList) && address.path.isSome &&
      (address.parameter? "db").all (fun bytes => isDatabase (bytes.map Char.ofUInt8)) &&
      address.hasKnownFormat

/-- Whether a text is an address that names an engine. -/
def isEngine (text : String) : Bool := (ofText? text).any namesEngine

end Address

end FilmFinder
