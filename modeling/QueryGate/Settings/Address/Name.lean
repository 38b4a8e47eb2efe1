import QueryGate.Settings.Address.NameChar
import QueryGate.Text.Direction
import QueryGate.Text.FoldedCase
import QueryGate.Text.Joining
import QueryGate.Text.Normal
import QueryGate.Text.Punycode
import QueryGate.Text.Split
/-!
Names of hosts in any script. A name is brought to its standard form, where case and width no longer matter; then each
of its parts between dots must be one that people can read in one way only. A part in ASCII that begins with `xn--`
spells one of another script.
-/
set_option autoImplicit false

namespace QueryGate.Settings.Address

/-! ## Standard form -/

/-- The characters that stand in a name for one character, before those that belong together are put together. There is
one kind of dot. -/
def standardChars (c : Char) : List Char :=
  if isIgnored c then []
  else
    ((Text.foldChar c).flatMap Text.decompose).flatMap fun d => if d = '。' then ['.'] else Text.foldChar d

/-- A name in standard form, unless it has a character that no name has. -/
def standardName? (cs : List Char) : Option (List Char) :=
  if cs.any isRefused then none
  else
    let name := Text.normalFormKC (cs.flatMap standardChars)
    if name.any isForbiddenInName then none else some name

/-! ## Parts -/

/-- The part of a name that a part of it in standard form stands for. What is spelled must have been in standard form
and must not be ASCII alone, which a hyphen at the end would mean. -/
def plainPart? : List Char → Option (List Char)
  | 'x' :: 'n' :: '-' :: '-' :: code =>
    if code = [] ∨ code.getLast? = some '-' ∨ 2000 < code.length then none
    else
      match Text.Punycode.decode? code with
      | some plain => if standardName? plain = some plain then some plain else none
      | none => none
  | part => some part

/-- Whether the first character of a text that letters do not join across is one of a kind. -/
def beginsWith (p : Char → Bool) : List Char → Bool
  | [] => false
  | c :: cs => p c || Text.isTransparent c && beginsWith p cs

/-- Whether a character does nothing but join letters or keep them apart. -/
def isJoiner (c : Char) : Bool := c = '\u200c' || c = '\u200d'

/-- Whether a joiner makes a difference between what is before it, with the last character first, and what is after it:
after a sign that takes the vowel from a letter, or, to keep two letters apart, between letters that would join. -/
def joinerFits (c : Char) (before after : List Char) : Bool :=
  match before with
  | [] => false
  | previous :: _ =>
    Text.combiningClass previous = 9
      || c = '\u200c' && beginsWith Text.joinsNext before && beginsWith Text.joinsPrevious after

/-- Whether every joiner makes a difference; `before` are the characters before these, with the last one first. -/
def joinersFit (before : List Char) : List Char → Bool
  | [] => true
  | c :: cs => (!isJoiner c || joinerFits c before cs) && joinersFit (c :: before) cs

/-- Whether a part of a name is well formed, apart from its direction: no mark begins it, every joiner makes a
difference, and it is not too long to be spelled. -/
def isWellFormed (part : List Char) : Bool :=
  !part.head?.any Text.isCombining && joinersFit [] part
    && (part.all (fun c => c.toNat < 0x80) || decide (part.length ≤ 1000))

/-! ## Direction -/

/-- Whether a character makes a name one with two directions. -/
def turnsRight (c : Char) : Bool :=
  match Text.directionOf c with
  | .rightToLeft => true
  | .arabicNumber => true
  | _ => false

/-- Whether a part of a name with two directions is read in one direction: it begins with a letter and ends with a
letter or a number, apart from marks, and it has no letter of the other direction and no numbers of two kinds. -/
def readsOneWay (part : List Char) : Bool :=
  let ds := part.map Text.directionOf
  let last := (ds.reverse.find? fun d => d ≠ .mark).getD .mark
  match ds.head? with
  | none => true
  | some .leftToRight =>
    !ds.contains .rightToLeft && !ds.contains .arabicNumber && (last = .leftToRight || last = .europeanNumber)
  | some .rightToLeft =>
    !ds.contains .leftToRight && !(ds.contains .europeanNumber && ds.contains .arabicNumber)
      && (last = .rightToLeft || last = .europeanNumber || last = .arabicNumber)
  | some _ => false

/-- Whether the parts of a name can be read in one way only. -/
def areReadable (parts : List (List Char)) : Bool :=
  parts.all isWellFormed && (!parts.any (fun part => part.any turnsRight) || parts.all readsOneWay)

/-- A name in standard form, unless it is none. -/
def nameOf? (cs : List Char) : Option (List Char) := do
  let name ← standardName? cs
  let parts ← (Text.splitAll (· = '.') name).mapM plainPart?
  if areReadable parts then some name else none

end QueryGate.Settings.Address
