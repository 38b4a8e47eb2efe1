import QueryGate.Text.LowerCase
/-!
Characters in the one form that stands for all their cases (Unicode, version 17). It is the lower case but for a few
letters. The sharp s and the final sigma stay as they are, so that no words are confused which only these tell apart.
-/
set_option autoImplicit false

namespace QueryGate.Text

/-- Letters in lower case that stand for another one, each with that one: the mark for a small iota, the round sigma,
and the old forms of Cyrillic letters. -/
def variantLetters : List (Nat × Nat) := [
  (0x345, 0x3b9), (0x3f2, 0x3c3), (0x1c80, 0x432), (0x1c81, 0x434), (0x1c82, 0x43e), (0x1c83, 0x441),
  (0x1c84, 0x442), (0x1c85, 0x442), (0x1c86, 0x44a), (0x1c87, 0x463), (0x1c88, 0xa64b)]

/-- The form of a character that stands for all its cases. For Cherokee letters that is the capital one. -/
def foldChar (c : Char) : List Char :=
  let code := c.toNat
  match variantLetters.lookup code with
  | some other => [Char.ofNat other]
  | none =>
    if 0x13a0 ≤ code ∧ code ≤ 0x13f5 then [c]
    else if 0x13f8 ≤ code ∧ code ≤ 0x13fd then [Char.ofNat (code - 8)]
    else if 0xab70 ≤ code ∧ code ≤ 0xabbf then [Char.ofNat (code - 0x97d0)]
    else lowerChar c

end QueryGate.Text
