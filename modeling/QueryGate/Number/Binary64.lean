/-!
Binary floating-point numbers of 64 bits, kept as exact data: a finite number is a whole mantissa times a
power of two. Every operation computes the exact rational result first and rounds it once, to the nearest
number and from a tie to the even mantissa, so nothing here depends on machine arithmetic.
-/
set_option autoImplicit false

namespace QueryGate.Number

/-- A number in the 64-bit binary format. A finite one is `mantissa * 2 ^ exponent`; the mantissa has at most 53
bits, and fewer only at the least exponent `-1074`, so each value has one form. -/
inductive Binary64 where
  | nan
  | infinity (negative : Bool)
  | finite (negative : Bool) (mantissa : Nat) (exponent : Int)
deriving DecidableEq, Repr

namespace Binary64

/-- The least exponent of two, that of the subnormal numbers. -/
def leastExponent : Int := -1074

/-- The greatest exponent of two of a finite number. -/
def greatestExponent : Int := 971

/-- One more than the greatest mantissa. -/
def mantissaBound : Nat := Nat.pow 2 53

/-- Positive zero. -/
def zero : Binary64 := finite false 0 leastExponent

/-- The fraction `num / (den * 2 ^ e)` as numerator and denominator. -/
def scaleDown (num den : Nat) (e : Int) : Nat × Nat :=
  match e with
  | .ofNat k => (num, den * Nat.pow 2 k)
  | .negSucc k => (num * Nat.pow 2 (k + 1), den)

/-- The whole number nearest to `num / den`; a tie goes to the even neighbour. -/
def roundHalfEven (num den : Nat) : Nat :=
  let q := num / den
  let twice := 2 * (num % den)
  if twice < den then q
  else if den < twice then q + 1
  else if q % 2 = 0 then q else q + 1

/-- The exponent of two at which `num / den` has a mantissa of 53 bits, or the least exponent if that is greater. -/
def exponentFor (num den : Nat) : Int :=
  let e : Int := (Nat.log2 num : Int) - (Nat.log2 den : Int) - 53
  let (n, d) := scaleDown num den e
  max leastExponent (if n / d < mantissaBound then e else e + 1)

/-- The number nearest to `num / den`, with the given sign; infinite if it is out of range. -/
def ofRatio (negative : Bool) (num den : Nat) : Binary64 :=
  if num = 0 then finite negative 0 leastExponent
  else
    let e := exponentFor num den
    let (n, d) := scaleDown num den e
    let m := roundHalfEven n d
    let (m, e) := if m < mantissaBound then (m, e) else (m / 2, e + 1)
    if greatestExponent < e then infinity negative else finite negative m e

/-- The number nearest to a natural number. -/
def ofNat (n : Nat) : Binary64 := ofRatio false n 1

/-- The number nearest to `10 ^ k`. -/
def powerOfTen (k : Nat) : Binary64 := ofNat (Nat.pow 10 k)

/-- The same number with the opposite sign. -/
def neg : Binary64 → Binary64
  | nan => nan
  | infinity s => infinity (!s)
  | finite s m e => finite (!s) m e

/-- Whether the number is one of the two zeros. -/
def isZero : Binary64 → Bool
  | finite _ 0 _ => true
  | _ => false

/-- Whether the number is an infinity. -/
def isInfinite : Binary64 → Bool
  | infinity _ => true
  | _ => false

/-- The absolute value of a finite number as a fraction. -/
def ratio (mantissa : Nat) (exponent : Int) : Nat × Nat :=
  match exponent with
  | .ofNat k => (mantissa * Nat.pow 2 k, 1)
  | .negSucc k => (mantissa, Nat.pow 2 (k + 1))

/-- The rounded product. -/
def mul : Binary64 → Binary64 → Binary64
  | finite s m e, finite t n f =>
    let (p, q) := ratio (m * n) (e + f)
    ofRatio (s != t) p q
  | nan, _ => nan
  | _, nan => nan
  | infinity s, finite t n _ => if n = 0 then nan else infinity (s != t)
  | finite s m _, infinity t => if m = 0 then nan else infinity (s != t)
  | infinity s, infinity t => infinity (s != t)

/-- The rounded quotient. -/
def div : Binary64 → Binary64 → Binary64
  | finite s m e, finite t n f =>
    if n = 0 then (if m = 0 then nan else infinity (s != t))
    else
      let (p, q) := ratio m (e - f)
      ofRatio (s != t) p (q * n)
  | nan, _ => nan
  | _, nan => nan
  | infinity s, finite t _ _ => infinity (s != t)
  | finite s _ _, infinity t => finite (s != t) 0 leastExponent
  | infinity _, infinity _ => nan

end Binary64

end QueryGate.Number
