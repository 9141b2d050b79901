import FilmFinder.Number.Numeral

/-!
# Reading number text

A number stands in a plain text with an optional sign; as digits with an optional point,
at least one digit on some side of it, and an optional power of ten; or as a word for
infinity or for no value, in any case. It is read as the nearest binary64 number.
-/
namespace FilmFinder

/-- The digits at the front, at least one, and what follows them. -/
def readDigits? (characters : List Char) : Option (List Char × List Char) :=
  let digits := characters.takeWhile Char.isDigit
  if digits.isEmpty then none else some (digits, characters.dropWhile Char.isDigit)

/-- A power of ten after its mark, and what follows it. -/
def readExponent? (characters : List Char) : Option (Int × List Char) :=
  match characters with
  | '-' :: rest =>
    (readDigits? rest).map fun (digits, rest) => (-(digitsValue 0 digits : Int), rest)
  | '+' :: rest => (readDigits? rest).map fun (digits, rest) => ((digitsValue 0 digits : Int), rest)
  | rest => (readDigits? rest).map fun (digits, rest) => ((digitsValue 0 digits : Int), rest)

/-- The numeral that some characters write without a sign, all of them. -/
def readUnsigned? (negative : Bool) (characters : List Char) : Option Numeral :=
  let whole := characters.takeWhile Char.isDigit
  let rest := characters.dropWhile Char.isDigit
  let (fraction, rest) :=
    match rest with
    | '.' :: rest => (rest.takeWhile Char.isDigit, rest.dropWhile Char.isDigit)
    | rest => ([], rest)
  if whole.isEmpty && fraction.isEmpty then none
  else
    let numeral (exponent : Option Int) : Numeral :=
      ⟨negative, digitsValue 0 whole, fraction, exponent⟩
    match rest with
    | [] => some (numeral none)
    | mark :: rest =>
      if mark = 'e' ∨ mark = 'E' then
        match readExponent? rest with
        | some (exponent, []) => some (numeral (some exponent))
        | _ => none
      else none

/-- The number that a plain text writes. -/
def Binary64.ofText? (text : String) : Option Binary64 :=
  let (negative, rest) :=
    match text.toList with
    | '-' :: rest => (true, rest)
    | '+' :: rest => (false, rest)
    | rest => (false, rest)
  let word := String.ofList (rest.map Char.toLower)
  if word = "inf" ∨ word = "infinity" then some (.infinite negative)
  else if word = "nan" then some .nan
  else (readUnsigned? negative rest).map Numeral.nearest

end FilmFinder
