import QueryGate.Number.Binary64
/-!
Decimal numerals as exact data and the numbers they stand for. `Decimal.toBinary64` rounds the exact value
once; `scaled` scales a whole number step by step in binary arithmetic, each step rounded.
-/
set_option autoImplicit false

namespace QueryGate.Number

/-- The value of a decimal digit. -/
def digitValue (c : Char) : Nat := c.toNat - '0'.toNat

/-- The value of a run of decimal digits after the digits that `n` already stands for. -/
def appendDigits (n : Nat) (digits : List Char) : Nat :=
  digits.foldl (fun n c => n * 10 + digitValue c) n

/-- The number `digits * 10 ^ exponent`. -/
structure Decimal where
  digits : Nat
  exponent : Int
deriving DecidableEq, Repr

namespace Decimal

/-- How many decimal digits a number has; zero has one. -/
def width (n : Nat) : Nat := (Nat.toDigits 10 n).length

/-- The nearest binary number. Numerals far outside the range of the format are settled by their size alone, so
that no power of ten is larger than the range needs. -/
def toBinary64 (negative : Bool) (d : Decimal) : Binary64 :=
  if d.digits = 0 then .finite negative 0 Binary64.leastExponent
  else
    let magnitude : Int := (width d.digits : Int) + d.exponent
    if 310 < magnitude then .infinity negative
    else if magnitude < -330 then .finite negative 0 Binary64.leastExponent
    else match d.exponent with
      | .ofNat k => Binary64.ofRatio negative (d.digits * Nat.pow 10 k) 1
      | .negSucc k => Binary64.ofRatio negative d.digits (Nat.pow 10 (k + 1))

end Decimal

/-- The widest step by which a number is scaled at once. -/
def scaleStep : Nat := 308

/-- The number `f * 10 ^ exponent` in steps that are rounded each; no value if the result is too large. -/
def scaleBy : Nat → Binary64 → Int → Option Binary64
  | _, f, .ofNat k =>
    if k ≤ scaleStep then
      let g := f.mul (.powerOfTen k)
      if g.isInfinite then none else some g
    else if f.isZero then some f else none
  | 0, f, .negSucc k => some (f.div (.powerOfTen (k + 1)))
  | steps + 1, f, .negSucc k =>
    if k + 1 ≤ scaleStep then some (f.div (.powerOfTen (k + 1)))
    else if f.isZero then some f
    else scaleBy steps (f.div (.powerOfTen scaleStep)) (scaleStep - (k + 1 : Int))

/-- The number `significand * 10 ^ exponent` as JSON numerals are read: the significand is rounded first, then
scaled by at most `10 ^ 308` at a time. -/
def scaled (significand : Nat) (exponent : Int) : Option Binary64 :=
  scaleBy (exponent.natAbs / scaleStep + 1) (.ofNat significand) exponent

end QueryGate.Number
