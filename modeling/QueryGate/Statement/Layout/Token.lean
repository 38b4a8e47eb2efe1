import QueryGate.Statement.Layout.Words
/-!
Statements cut into tokens. Every character belongs to a token, so that the tokens put together are the statement again.
-/
set_option autoImplicit false

namespace QueryGate.Statement.Layout

/-- What a token is to the layout. -/
inductive Kind where
  | blank
  /-- A comment up to the end of its line. -/
  | lineComment
  /-- A comment between its own signs. -/
  | blockComment
  /-- Anything in quotes or square brackets. -/
  | quoted
  | opening
  | closing
  | number
  | clause
  | divider
  | line
  | keyword
  | placeholder
  | word
  | sign
deriving DecidableEq, Repr

/-- A piece of a statement. -/
structure Token where
  kind : Kind
  chars : List Char
deriving DecidableEq, Repr

/-! ## Comments and quotes -/

/-- A comment up to the end of its line, at the beginning of a text. A carriage return ends it only before a line
feed, and may not stand in it. -/
def cutLineComment? (cs : List Char) : Option (List Char) :=
  if cs.head? = some '#' ∨ ['-', '-'].isPrefixOf cs then
    let text := cs.takeWhile fun c => c ≠ '\r' && c ≠ '\n'
    match cs.drop text.length with
    | '\r' :: rest => if rest.head? = some '\n' then some text else none
    | _ => some text
  else none

/-- The rest of a comment between its own signs, with the closing one. -/
def blockCommentRest : List Char → List Char
  | [] => []
  | [c] => [c]
  | c :: d :: rest => if c = '*' ∧ d = '/' then [c, d] else c :: blockCommentRest (d :: rest)

/-- A comment between its own signs, at the beginning of a text. One that is not closed goes on to the end. -/
def cutBlockComment? : List Char → Option (List Char)
  | '/' :: '*' :: rest => some ('/' :: '*' :: blockCommentRest rest)
  | _ => none

/-- What is quoted, with the closing quote, which belongs to what is quoted after one of some characters. -/
def quotedRest? (closing : Char) (escapes : List Char) : List Char → Option (List Char)
  | [] => none
  | [c] => if c = closing then some [c] else none
  | c :: d :: rest =>
    if escapes.contains c && d = closing then (quotedRest? closing escapes rest).map fun more => c :: d :: more
    else if c = closing then some [c]
    else (quotedRest? closing escapes (d :: rest)).map fun more => c :: more

/-- Anything in quotes or square brackets, at the beginning of a text. What is not closed is not quoted. -/
def cutQuoted? : List Char → Option (List Char)
  | [] => none
  | c :: rest =>
    let quoted := fun closing escapes => (quotedRest? closing escapes rest).map fun more => c :: more
    if c = '\x60' then quoted '\x60' ['\x60']
    else if c = '[' then quoted ']' [']']
    else if c = '"' then quoted '"' ['"', '\\']
    else if c = '\'' then quoted '\'' ['\'', '\\']
    else none

/-- A quoted text with a letter before it that says how it is to be read, at the beginning of a text. -/
def cutMarked? : List Char → Option (List Char)
  | mark :: '\'' :: rest =>
    if mark = 'N' ∨ mark = 'E' then
      (quotedRest? '\'' ['\'', '\\'] rest).map fun more => mark :: '\'' :: more
    else none
  | _ => none

/-- The quoted name of a placeholder, at the beginning of a text. A doubled quote does not stand for one here: the first
ends the name. -/
def cutQuotedName? : List Char → Option (List Char)
  | [] => none
  | c :: rest =>
    if c = '"' ∨ c = '\'' then (quotedRest? c ['\\'] rest).map fun more => c :: more else cutQuoted? (c :: rest)

/-! ## Numbers and placeholders -/

/-- Digits with a point after them or among them. -/
def mantissa (cs : List Char) : List Char :=
  let whole := cs.takeWhile Char.isDigit
  match cs.drop whole.length with
  | '.' :: rest => whole ++ '.' :: rest.takeWhile Char.isDigit
  | _ => whole

/-- An exponent at the beginning of a text. -/
def exponent : List Char → List Char
  | 'e' :: sign :: rest =>
    let (sign, digits) := if sign = '-' ∨ sign = '+' then ([sign], rest) else ([], sign :: rest)
    let digits := digits.takeWhile Char.isDigit
    if digits = [] then [] else 'e' :: sign ++ digits
  | _ => []

/-- A number without a sign, at the beginning of a text. -/
def cutUnsigned? (cs : List Char) : Option (List Char) :=
  if cs.head?.any Char.isDigit then
    let m := mantissa cs
    some (m ++ exponent (cs.drop m.length))
  else none

/-- A number at the beginning of a text. -/
def cutNumber? : List Char → Option (List Char)
  | '-' :: rest => (cutUnsigned? rest).map fun digits => '-' :: digits
  | cs => cutUnsigned? cs

/-- Whether a character may stand in the name of a placeholder. -/
def isPlaceholderChar (c : Char) : Bool := Text.isAlphanumeric c || c = '.' || c = '_' || c = '$'

/-- A placeholder at the beginning of a text: with a number, without any, with a name, or with a name in quotes. -/
def cutPlaceholder? : List Char → Option (List Char)
  | [] => none
  | c :: rest =>
    let digits := rest.takeWhile Char.isDigit
    let name := rest.takeWhile isPlaceholderChar
    if (c = '?' ∨ c = '$') ∧ digits ≠ [] then some (c :: digits)
    else if c = '?' then some [c]
    else if (c = '@' ∨ c = ':' ∨ c = '$') ∧ name ≠ [] then some (c :: name)
    else if c = '@' ∨ c = ':' then (cutQuotedName? rest).map fun quoted => c :: quoted
    else none

/-! ## Signs and words -/

/-- The signs of several characters. Of two that begin alike the longer one stands first. -/
def signs : List (List Char) := List.map String.toList [
  "!=", "<>", "==", "<=", ">=", "!<", "!>", "||", "::", "->>", "->", "~~*", "~~", "!~~*", "!~~", "~*", "!~*", "!~",
    ":="]

/-- A sign of several characters, at the beginning of a text. -/
def cutSign? (cs : List Char) : Option (List Char) := signs.find? fun sign => sign.isPrefixOf cs

/-- A word at the beginning of a text. -/
def cutWord? (cs : List Char) : Option (List Char) :=
  match cs.takeWhile Text.isWordChar with
  | [] => none
  | word => some word

/-- What stands before a token: the token before it, the last keyword, and the last phrase that began a clause. -/
structure Before where
  previous : List Char
  keyword : List Char
  clause : List Char
deriving DecidableEq, Repr

/-- Nothing stands before the first token. -/
def Before.nothing : Before := ⟨[], [], []⟩

/-- What stands before the next token. -/
def Before.after (b : Before) (t : Token) : Before where
  previous := t.chars
  keyword := if t.kind = .keyword then t.chars else b.keyword
  clause := if t.kind = .clause then t.chars else b.clause

/-- The kind of a phrase that is among those which begin a clause. What a selection leaves out belongs to it. -/
def clauseKind (b : Before) (chars : List Char) : Kind :=
  if chars = "EXCEPT".toList ∧ b.clause = "SELECT".toList then .word else .clause

/-- The kind of a phrase that is among those which begin a line. The two bounds of a range stand on one. -/
def lineKind (b : Before) (chars : List Char) : Kind :=
  if chars = "AND".toList ∧ b.keyword = "BETWEEN".toList then .keyword else .line

/-- The token of what has been cut off, if anything has; its kind depends on it. -/
def made (kind : List Char → Kind) (chars : Option (List Char)) : Option Token := chars.map fun cs => ⟨kind cs, cs⟩

/-- The token of a kind that has been cut off, if anything has. -/
def madeOf (kind : Kind) (chars : Option (List Char)) : Option Token := made (fun _ => kind) chars

/-- A phrase at the beginning of a text. After a point there are names only. -/
def cutReserved? (b : Before) (cs : List Char) : Option Token :=
  if b.previous = ['.'] then none
  else
    made (clauseKind b) (cutPhrase? clausePhrases cs) <|> made (lineKind b) (cutPhrase? linePhrases cs)
      <|> madeOf .divider (cutPhrase? dividerPhrases cs) <|> madeOf .keyword (cutPhrase? keywordPhrases cs)

/-- Words that open a block as a bracket does. -/
def openingPhrases : List Phrase := phrases ["CASE"]

/-- Words that close a block as a bracket does. -/
def closingPhrases : List Phrase := phrases ["END"]

/-- A bracket, or a word in place of one, at the beginning of a text. -/
def cutBracket? (cs : List Char) : Option Token :=
  match cs with
  | '(' :: _ => some ⟨.opening, ['(']⟩
  | ')' :: _ => some ⟨.closing, [')']⟩
  | _ =>
    madeOf .opening (cutPhrase? openingPhrases cs) <|> madeOf .closing (cutPhrase? closingPhrases cs)

/-- The first token of a text that begins with a character. -/
def firstToken (b : Before) (c : Char) (rest : List Char) : Token :=
  if Text.isBlank c then ⟨.blank, c :: rest.takeWhile Text.isBlank⟩
  else
    let cs := c :: rest
    let found := madeOf .lineComment (cutLineComment? cs) <|> madeOf .blockComment (cutBlockComment? cs)
      <|> madeOf .quoted (cutQuoted? cs) <|> madeOf .quoted (cutMarked? cs) <|> cutBracket? cs
      <|> madeOf .number (cutNumber? cs) <|> cutReserved? b cs <|> madeOf .sign (cutSign? cs)
      <|> madeOf .placeholder (cutPlaceholder? cs) <|> madeOf .word (cutWord? cs)
    found.getD ⟨.sign, [c]⟩

/-- The tokens of a text; the fuel is its length. -/
def tokensFrom (b : Before) : Nat → List Char → List Token
  | _, [] => []
  | 0, _ => []
  | fuel + 1, c :: rest =>
    let t := firstToken b c rest
    t :: tokensFrom (b.after t) fuel ((c :: rest).drop t.chars.length)

/-- The tokens of a statement. -/
def tokensOf (cs : List Char) : List Token := tokensFrom .nothing cs.length cs

end QueryGate.Statement.Layout
