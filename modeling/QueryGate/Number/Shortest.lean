import QueryGate.Number.Decimal
/-!
The shortest decimal numeral that reads back as a given binary number, found in exact arithmetic: a number stands
for the interval of reals that round to it, and the coarsest decimal grid with a point in that interval gives the
digits.
-/
set_option autoImplicit false

namespace QueryGate.Number

/-- The reals that round to one positive number, over a common denominator: the number itself and the ends of
the interval, which belong to it exactly if `closed` holds. -/
structure RoundingInterval where
  low : Nat
  value : Nat
  high : Nat
  den : Nat
  closed : Bool
deriving Repr

namespace RoundingInterval

/-- The interval of `mantissa * 2 ^ exponent`. Below a power of two the neighbours are twice as close. -/
def ofFinite (mantissa : Nat) (exponent : Int) : RoundingInterval :=
  let atPower := mantissa = Nat.pow 2 52 ∧ Binary64.leastExponent < exponent
  let low := if atPower then 4 * mantissa - 1 else 4 * mantissa - 2
  let (unit, den) := Binary64.ratio 1 (exponent - 2)
  ⟨low * unit, 4 * mantissa * unit, (4 * mantissa + 2) * unit, den, decide (mantissa % 2 = 0)⟩

/-- Whether `n / den` lies in the interval. -/
def contains (r : RoundingInterval) (n d : Nat) : Bool :=
  let low := r.low * d
  let high := r.high * d
  let x := n * r.den
  if r.closed then decide (low ≤ x ∧ x ≤ high) else decide (low < x ∧ x < high)

end RoundingInterval

/-- The exponent `k` with `10 ^ k ≤ num / den < 10 ^ (k + 1)`, for a positive fraction. -/
def decimalExponent (num den : Nat) : Int :=
  if den ≤ num then (Decimal.width (num / den) : Int) - 1
  else
    let k := Decimal.width (den / num)
    if den ≤ num * Nat.pow 10 (k - 1) then -((k - 1 : Nat) : Int) else -(k : Int)

/-- `10 ^ e` as a fraction. -/
def tenToThe (e : Int) : Nat × Nat :=
  match e with
  | .ofNat k => (Nat.pow 10 k, 1)
  | .negSucc k => (1, Nat.pow 10 (k + 1))

/-- The better of the two neighbours of the number on the grid of multiples of `10 ^ exponent`, if one of them
lies in the interval; of two hits the nearer, and from a tie the even one. -/
def nearestOnGrid (r : RoundingInterval) (exponent : Int) : Option Decimal :=
  let (p, q) := tenToThe exponent
  let below := r.value * q / (r.den * p)
  let above := below + 1
  let inside (n : Nat) : Bool := r.contains (n * p) q
  let closerBelow := r.value * q - below * (r.den * p)
  let closerAbove := above * (r.den * p) - r.value * q
  match inside below, inside above with
  | true, true =>
    if closerBelow < closerAbove ∨ (closerBelow = closerAbove ∧ below % 2 = 0) then some ⟨below, exponent⟩
    else some ⟨above, exponent⟩
  | true, false => some ⟨below, exponent⟩
  | false, true => some ⟨above, exponent⟩
  | false, false => none

/-- The first grid with a hit, from `exponent` down through `tries` finer ones. -/
def firstOnGrid (r : RoundingInterval) : Nat → Int → Option Decimal
  | 0, _ => none
  | tries + 1, exponent =>
    match nearestOnGrid r exponent with
    | some d => some d
    | none => firstOnGrid r tries (exponent - 1)

/-- Removes zeros at the end of the digits. -/
def Decimal.strip : Nat → Decimal → Decimal
  | 0, d => d
  | fuel + 1, d => if d.digits ≠ 0 ∧ d.digits % 10 = 0 then strip fuel ⟨d.digits / 10, d.exponent + 1⟩ else d

/-- The shortest decimal that reads back as `mantissa * 2 ^ exponent`, for a positive mantissa. Seventeen digits
are always enough. -/
def shortestDecimal (mantissa : Nat) (exponent : Int) : Decimal :=
  let r := RoundingInterval.ofFinite mantissa exponent
  match firstOnGrid r 17 (decimalExponent r.value r.den) with
  | some d => d.strip 17
  | none => ⟨0, 0⟩

end QueryGate.Number
