import QueryGate.Text.Decomposition
import QueryGate.Text.CombiningClass
import QueryGate.Text.Composition
/-!
Normalisation form KC: every character is decomposed as far as compatibility goes, marks are put into canonical
order, and pairs are composed again.
-/
set_option autoImplicit false

namespace QueryGate.Text

/-- Puts a character before ordered ones: a mark moves behind the marks of smaller classes that follow it. -/
def insertMark (c : Char) : List Char → List Char
  | [] => [c]
  | d :: ds =>
    if combiningClass d ≠ 0 ∧ combiningClass d < combiningClass c then d :: insertMark c ds else c :: d :: ds

/-- Marks between two starts ordered by class; marks of one class keep their order. -/
def orderMarks : List Char → List Char
  | [] => []
  | c :: cs => insertMark c (orderMarks cs)

/-- Composes the characters after a start with it where they can. `held` holds the marks that stay, the last one
first; a mark is cut off from the start by a held mark of its own class or a greater one. -/
def composeFrom (start : Char) (held : List Char) : List Char → List Char
  | [] => start :: held.reverse
  | c :: cs =>
    let free := match held with
      | [] => true
      | h :: _ => combiningClass h < combiningClass c
    match if free then compose? start c else none with
    | some composite => composeFrom composite held cs
    | none =>
      if combiningClass c = 0 then start :: held.reverse ++ composeFrom c [] cs
      else composeFrom start (c :: held) cs

/-- Composes every pair that can be composed. -/
def composeAll : List Char → List Char
  | [] => []
  | c :: cs => if combiningClass c = 0 then composeFrom c [] cs else c :: composeAll cs

/-- Normalisation form KC. -/
def normalFormKC (cs : List Char) : List Char := composeAll (orderMarks (cs.flatMap decompose))

end QueryGate.Text
