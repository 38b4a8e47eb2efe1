import QueryGate.Number.Decimal
/-!
Numbers in free text: an optional sign, then digits with an optional point and exponent, or the words for infinity
and for no number. At least one digit stands before the exponent, on either side of the point.
-/
set_option autoImplicit false

namespace QueryGate.Number

/-- Splits off an optional sign. -/
def splitSign : List Char → Bool × List Char
  | '+' :: rest => (false, rest)
  | '-' :: rest => (true, rest)
  | cs => (false, cs)

/-- The exponent at the end of a numeral; zero if there is none. -/
def readExponent : List Char → Option Int
  | [] => some 0
  | mark :: rest =>
    if mark = 'e' ∨ mark = 'E' then
      let (negative, digits) := splitSign rest
      if digits.isEmpty ∨ ¬ digits.all Char.isDigit then none
      else
        let n : Int := (appendDigits 0 digits : Int)
        some (if negative then -n else n)
    else none

/-- The decimal that digits stand for. -/
def readDecimal (cs : List Char) : Option Decimal :=
  let whole := cs.takeWhile Char.isDigit
  let afterWhole := cs.dropWhile Char.isDigit
  let (fraction, rest) := match afterWhole with
    | '.' :: more => (more.takeWhile Char.isDigit, more.dropWhile Char.isDigit)
    | _ => ([], afterWhole)
  if whole.isEmpty ∧ fraction.isEmpty then none
  else (readExponent rest).map fun e => ⟨appendDigits 0 (whole ++ fraction), e - (fraction.length : Int)⟩

/-- The number that a text stands for. -/
def ofText? (text : String) : Option Binary64 :=
  let (negative, cs) := splitSign text.toList
  match readDecimal cs with
  | some d => some (d.toBinary64 negative)
  | none =>
    let word := cs.map Char.toLower
    if word = ['i', 'n', 'f'] ∨ word = ['i', 'n', 'f', 'i', 'n', 'i', 't', 'y'] then some (.infinity negative)
    else if word = ['n', 'a', 'n'] then some .nan
    else none

end QueryGate.Number
