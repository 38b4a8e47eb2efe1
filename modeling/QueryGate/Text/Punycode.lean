/-!
Text of any script spelled with ASCII letters, digits and hyphens. The ASCII characters come first, with a hyphen after
them; then come numbers, one for each other character, that say which character it is and where it stands. The digits
of a number have the lowest one first, and how much each one counts depends on the numbers before.
-/
set_option autoImplicit false

namespace QueryGate.Text.Punycode

/-- The value of a digit: letters of either case for 0 to 25, then the ten digits. -/
def digit? (c : Char) : Option Nat :=
  if 'a' ≤ c ∧ c ≤ 'z' then some (c.toNat - 'a'.toNat)
  else if 'A' ≤ c ∧ c ≤ 'Z' then some (c.toNat - 'A'.toNat)
  else if c.isDigit then some (c.toNat - '0'.toNat + 26)
  else none

/-- The value from which on a digit has another one after it, where `place` is 36 for the first digit of a number and 36
more for each further one. -/
def threshold (place bias : Nat) : Nat :=
  if place ≤ bias then 1 else if bias + 26 ≤ place then 26 else place - bias

/-- Scales a distance down until it is small, and counts 36 for each step. -/
def scaleDown (distance : Nat) : Nat × Nat :=
  if 455 < distance then
    let (small, steps) := scaleDown (distance / 35)
    (small, steps + 36)
  else (distance, 0)
termination_by distance
decreasing_by omega

/-- The bias after a distance, when so many characters have been placed: large distances make it likely that the next
one is large. -/
def biasAfter (distance placed : Nat) (isFirst : Bool) : Nat :=
  let distance := if isFirst then distance / 700 else distance / 2
  let (small, steps) := scaleDown (distance + distance / placed)
  steps + 36 * small / (small + 38)

/-- A text under construction. The next character has the code `code` or a greater one, and `start` is where its number
begins to count; `sum`, `weight` and `place` belong to the number under way. -/
structure Progress where
  written : List Char
  code : Nat
  bias : Nat
  start : Nat
  sum : Nat
  weight : Nat
  place : Nat
deriving Repr

namespace Progress

/-- Nothing but the ASCII characters is written. -/
def ofBasic (basic : List Char) : Progress := ⟨basic, 0x80, 72, 0, 0, 1, 36⟩

/-- Places the character that the number stands for, if it is one. -/
def place? (p : Progress) : Option Progress :=
  let placed := p.written.length + 1
  let code := p.code + p.sum / placed
  let position := p.sum % placed
  if code.isValidChar then
    let start := position + 1
    some ⟨p.written.insertIdx position (Char.ofNat code), code, biasAfter (p.sum - p.start) placed (p.start = 0),
      start, start, 1, 36⟩
  else none

/-- Reads a digit. Weights stay below 2 to the 32nd. -/
def read? (p : Progress) (c : Char) : Option Progress := do
  let digit ← digit? c
  let t := threshold p.place p.bias
  let p := { p with sum := p.sum + digit * p.weight }
  if digit < t then p.place?
  else
    let weight := p.weight * (36 - t)
    if weight < 0x100000000 then some { p with weight := weight, place := p.place + 36 } else none

end Progress

/-- The text that is spelled, if any is. What is not ASCII spells nothing, and neither does a number without end. -/
def decode? (cs : List Char) : Option (List Char) := do
  let code := (cs.reverse.takeWhile fun c => c ≠ '-').reverse
  let basic := cs.take (cs.length - code.length - 1)
  if code.length < cs.length ∧ basic = [] then none
  else if basic.any fun c => 0x80 ≤ c.toNat then none
  else
    let p ← code.foldlM Progress.read? (Progress.ofBasic basic)
    if p.weight = 1 then some p.written else none

end QueryGate.Text.Punycode
