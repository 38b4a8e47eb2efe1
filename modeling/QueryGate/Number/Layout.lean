import QueryGate.Number.Shortest
/-!
How a binary number is laid out in text: where positional notation ends, whether a whole number keeps a fraction,
how an exponent is written. The digits themselves are the shortest that read back.
-/
set_option autoImplicit false

namespace QueryGate.Number

/-- The choices of one text format for numbers. -/
structure Layout where
  /-- The decimal exponents written positionally, from the first up to but not with the second; none means all. -/
  positional : Option (Int × Int)
  /-- Whether a whole number in positional notation ends in `.0`. -/
  keepsFraction : Bool
  /-- The texts of values without digits. -/
  undefined : String
  infinite : String

namespace Layout

/-- Digits with a point `places` from the right, with zeros filled in on the left. -/
def placePoint (digits : String) (places : Nat) : String :=
  let filled := String.ofList (List.replicate (places + 1 - digits.length) '0') ++ digits
  let cs := filled.toList
  let whole := cs.take (cs.length - places)
  let fraction := cs.drop (cs.length - places)
  String.ofList whole ++ "." ++ String.ofList fraction

/-- The positional form of `digits * 10 ^ exponent`. -/
def writePositional (l : Layout) (d : Decimal) : String :=
  match d.exponent with
  | .ofNat k =>
    toString d.digits ++ String.ofList (List.replicate k '0') ++ (if l.keepsFraction then ".0" else "")
  | .negSucc k => placePoint (toString d.digits) (k + 1)

/-- The form with one digit before the point and a signed exponent. -/
def writeExponent (d : Decimal) (magnitude : Int) : String :=
  let sign := if magnitude < 0 then "-" else "+"
  let mantissa := match (toString d.digits).toList with
    | [] => ""
    | [c] => String.ofList [c]
    | c :: rest => String.ofList (c :: '.' :: rest)
  mantissa ++ "e" ++ sign ++ toString magnitude.natAbs

/-- The text of a number in this layout. -/
def write (l : Layout) : Binary64 → String
  | .nan => l.undefined
  | .infinity negative => (if negative then "-" else "") ++ l.infinite
  | .finite negative mantissa exponent =>
    let sign := if negative then "-" else ""
    if mantissa = 0 then sign ++ (if l.keepsFraction then "0.0" else "0")
    else
      let d := shortestDecimal mantissa exponent
      let magnitude := d.exponent + (Decimal.width d.digits : Int) - 1
      let isPositional := match l.positional with
        | none => true
        | some (first, last) => decide (first ≤ magnitude ∧ magnitude < last)
      sign ++ (if isPositional then l.writePositional d else writeExponent d magnitude)

end Layout

end QueryGate.Number
