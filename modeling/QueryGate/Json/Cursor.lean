import QueryGate.Json.Document
import QueryGate.Text.Hexadecimal
/-!
Reading the tokens of a JSON text: blanks, words, numbers and strings. A cursor is the rest of a text together with
the place where it begins.
-/
set_option autoImplicit false

namespace QueryGate.Json

/-- The rest of a text and its place. -/
structure Cursor where
  rest : List Char
  place : Place
deriving Repr

namespace Cursor

/-- The whole of a text. -/
def ofText (text : String) : Cursor := ⟨text.toList, .start⟩

/-- The place after the next byte. -/
def afterByte (c : Cursor) : Place := c.place.afterByte c.rest

/-- JSON's blanks are the space, the tab and the two line ends. -/
def isBlank (c : Char) : Bool := c = ' ' || c = '\n' || c = '\t' || c = '\r'

/-- The place after a run of characters. -/
def placeAfter (p : Place) (cs : List Char) : Place := cs.foldl Place.after p

/-- The cursor after the characters that satisfy a test. -/
def skipWhile (test : Char → Bool) (c : Cursor) : Cursor :=
  ⟨c.rest.dropWhile test, placeAfter c.place (c.rest.takeWhile test)⟩

/-- The cursor after the blanks. -/
def skipBlanks (c : Cursor) : Cursor := c.skipWhile isBlank

/-- The cursor after one character that is known to be there. -/
def step (c : Cursor) : Cursor :=
  match c.rest with
  | [] => c
  | x :: rest => ⟨rest, c.place.after x⟩

/-- Reads the letters of a word whose first letter has been read. -/
def word : List Char → Cursor → Except Break Cursor
  | [], c => .ok c
  | w :: ws, c =>
    match c.rest with
    | [] => .error (.same .unfinishedValue c.place)
    | x :: _ => if x = w then word ws c.step else .error (.same .expectedWord c.afterByte)

end Cursor

/-! ## Numbers -/

/-- The digits at a cursor and the cursor after them. -/
def Cursor.digits (c : Cursor) : List Char × Cursor :=
  (c.rest.takeWhile Char.isDigit, c.skipWhile Char.isDigit)

/-- The parts of a number literal. The digits of the whole part are never missing; those of the fraction and of the
exponent are not missing where there is a point or an exponent mark. -/
structure Literal where
  negative : Bool
  whole : List Char
  fraction : Option (List Char)
  /-- Whether the exponent is negative, the place of its first digit, and its digits. -/
  exponent : Option (Bool × Place × List Char)
deriving Repr

/-- Reads the exponent of a number after its mark. -/
def Cursor.exponent (c : Cursor) : Except Break ((Bool × Place × List Char) × Cursor) :=
  let (negative, c) := match c.rest with
    | '+' :: _ => (false, c.step)
    | '-' :: _ => (true, c.step)
    | _ => (false, c)
  match c.digits with
  | ([], _) =>
    if c.rest.isEmpty then .error (.differing .unfinishedValue .invalidNumber c.place)
    else .error (.same .invalidNumber c.afterByte)
  | (ds, next) => .ok ((negative, c.place, ds), next)

/-- Reads the part of a number literal after its whole part: a fraction, an exponent, both or neither. -/
def Cursor.literalEnd (negative : Bool) (whole : List Char) (c : Cursor) : Except Break (Literal × Cursor) :=
  let finish (fraction : Option (List Char)) (c : Cursor) : Except Break (Literal × Cursor) :=
    match c.rest with
    | 'e' :: _ | 'E' :: _ => do
      let (e, c) ← c.step.exponent
      .ok (⟨negative, whole, fraction, some e⟩, c)
    | _ => .ok (⟨negative, whole, fraction, none⟩, c)
  match c.rest with
  | '.' :: _ =>
    match c.step.digits with
    | ([], _) =>
      if c.step.rest.isEmpty then .error (.differing .unfinishedValue .invalidNumber c.step.place)
      else .error (.same .invalidNumber c.step.afterByte)
    | (ds, next) => finish (some ds) next
  | _ => finish none c

/-- Reads a number literal after its sign. A leading zero stands alone. -/
def Cursor.literal (negative : Bool) (c : Cursor) : Except Break (Literal × Cursor) :=
  match c.rest with
  | [] => .error (.differing .unfinishedValue .invalidNumber c.place)
  | '0' :: rest =>
    match rest with
    | d :: _ => if d.isDigit then .error (.same .invalidNumber c.step.afterByte) else c.step.literalEnd negative ['0']
    | [] => c.step.literalEnd negative ['0']
  | d :: _ =>
    if d.isDigit then c.digits.2.literalEnd negative c.digits.1
    else .error (.same .invalidNumber c.afterByte)

namespace Literal

/-- One more than the greatest significand. -/
def significandBound : Nat := UInt64.size

/-- One more than the greatest exponent that is taken at its word. -/
def exponentBound : Nat := Nat.pow 2 31

/-- Takes digits into a significand as long as it stays below the bound; with the digits that are left over. -/
def takeDigits (n : Nat) : List Char → Nat × List Char
  | [] => (n, [])
  | d :: ds =>
    let m := n * 10 + Number.digitValue d
    if m < significandBound then takeDigits m ds else (n, d :: ds)

/-- The significand and the power of ten of the digits of a literal. Digits that do not fit are dropped; those of
the whole part still count as places. -/
def significand (l : Literal) : Nat × Int :=
  let (n, left) := takeDigits 0 l.whole
  let fraction := l.fraction.getD []
  let (m, dropped) := takeDigits n fraction
  (m, (left.length : Int) - ((fraction.length - dropped.length : Nat) : Int))

/-- Reads the digits of an exponent; none if they pass the bound, with the digits left over after the one that
passes it. -/
def takeExponent (n : Nat) : List Char → Option Nat × List Char
  | [] => (some n, [])
  | d :: ds =>
    let m := n * 10 + Number.digitValue d
    if m < exponentBound then takeExponent m ds else (none, ds)

/-- A binary number with a sign. -/
def signed (negative : Bool) (x : Number.Binary64) : Numeral := .real (if negative then x.neg else x)

/-- The number that a literal stands for; `finish` is the place after it. An integer that fits 64 bits stays an
integer, except that minus zero is a binary number. -/
def value (l : Literal) (finish : Place) : Except Fault Numeral :=
  let (n, e) := l.significand
  let scale (exponent : Int) : Except Fault Numeral :=
    match Number.scaled n exponent with
    | some x => .ok (signed l.negative x)
    | none => .error ⟨.numberOutOfRange, finish⟩
  match l.fraction, l.exponent with
  | none, none =>
    if e ≠ 0 then scale e
    else if ¬ l.negative then .ok (.natural n)
    else if n = 0 ∨ Nat.pow 2 63 < n then .ok (signed true (.ofNat n))
    else .ok (.negative (n - 1))
  | _, none => scale e
  | _, some (down, place, ds) =>
    match takeExponent 0 ds with
    | (some x, _) => scale (if down then e - x else e + x)
    | (none, left) =>
      if n ≠ 0 ∧ ¬ down then .error ⟨.numberOutOfRange, ⟨place.line, place.column + (ds.length - left.length)⟩⟩
      else .ok (signed l.negative .zero)

end Literal

/-! ## Strings -/

/-- The place a number of bytes further on, which may lie inside a character. -/
def placeAfterBytes : Nat → Place → List Char → Place
  | 0, p, _ => p
  | _, p, [] => p
  | n + 1, p, c :: cs =>
    if c.utf8Size ≤ n + 1 then
      match c.utf8Size with
      | 0 => p
      | k + 1 => placeAfterBytes (n - k) (p.after c) cs
    else ⟨p.line, p.column + (n + 1)⟩

/-- The place at the end of a text. -/
def Cursor.finish (c : Cursor) : Place := Cursor.placeAfter c.place c.rest

/-- Whether a text has at least so many bytes. -/
def hasBytes (n : Nat) (cs : List Char) : Bool := n ≤ (cs.take n).foldl (fun k c => k + c.utf8Size) 0

/-- Reads the four digits of an escaped code unit. -/
def Cursor.codeUnit (c : Cursor) : Except Break (Nat × Cursor) :=
  if ¬ hasBytes 4 c.rest then .error (.same .unfinishedString c.finish)
  else
    match c.rest with
    | w :: x :: y :: z :: rest =>
      match Text.hexValue? w, Text.hexValue? x, Text.hexValue? y, Text.hexValue? z with
      | some w, some x, some y, some z =>
        .ok (((w * 16 + x) * 16 + y) * 16 + z, ⟨rest, ⟨c.place.line, c.place.column + 4⟩⟩)
      | _, _, _, _ => .error (.same .invalidEscape (placeAfterBytes 4 c.place c.rest))
    | _ => .error (.same .invalidEscape (placeAfterBytes 4 c.place c.rest))

/-- The character of a simple escape. -/
def simpleEscape (c : Char) : Option Char :=
  match c with
  | '"' => some '"'
  | '\\' => some '\\'
  | '/' => some '/'
  | 'b' => some (Char.ofNat 0x08)
  | 'f' => some (Char.ofNat 0x0c)
  | 'n' => some '\n'
  | 'r' => some '\r'
  | 't' => some '\t'
  | _ => none

/-- What an escape stands for: a character, or a complaint of one who wants the text. -/
structure Escape where
  value : Except Fault Char
  next : Cursor

/-- Reads an escaped code unit after its mark, and the second half of a pair where one is due. A half that stands
alone has no value, but one who skips over it goes on after it. -/
def Cursor.unicodeEscape (c : Cursor) : Except Break Escape := do
  let (n, next) ← c.codeUnit
  if 0xdc00 ≤ n ∧ n ≤ 0xdfff then .ok ⟨.error ⟨.loneSurrogate, next.place⟩, next⟩
  else if n < 0xd800 ∨ 0xdbff < n then .ok ⟨.ok (Char.ofNat n), next⟩
  else
    match next.rest with
    | [] => .ok ⟨.error ⟨.unfinishedString, next.place⟩, next⟩
    | x :: rest =>
      if x ≠ '\\' then .ok ⟨.error ⟨.unfinishedSurrogatePair, next.afterByte⟩, next⟩
      else
        match rest with
        | [] => .ok ⟨.error ⟨.unfinishedString, next.step.place⟩, next⟩
        | y :: _ =>
          if y ≠ 'u' then .ok ⟨.error ⟨.unfinishedSurrogatePair, next.step.afterByte⟩, next⟩
          else
            match next.step.step.codeUnit with
            | .error fault => .ok ⟨.error fault.read, next⟩
            | .ok (m, last) =>
              if 0xdc00 ≤ m ∧ m ≤ 0xdfff then
                .ok ⟨.ok (Char.ofNat (0x10000 + (n - 0xd800) * 0x400 + (m - 0xdc00))), last⟩
              else .ok ⟨.error ⟨.loneSurrogate, last.place⟩, next⟩

/-- Reads an escape after its backslash. -/
def Cursor.escape (c : Cursor) : Except Break Escape :=
  match c.rest with
  | [] => .error (.same .unfinishedString c.place)
  | 'u' :: _ => c.step.unicodeEscape
  | x :: _ =>
    match simpleEscape x with
    | some y => .ok ⟨.ok y, c.step⟩
    | none => .error (.same .invalidEscape c.afterByte)

/-- One more character of a text that may already have no value. -/
def pushChar (text : Except Fault (List Char)) (c : Except Fault Char) : Except Fault (List Char) :=
  match text, c with
  | .error f, _ => .error f
  | .ok _, .error f => .error f
  | .ok cs, .ok c => .ok (c :: cs)

/-- A break, met after a complaint of one who wants the text. -/
def Break.afterFault (text : Except Fault (List Char)) (b : Break) : Break :=
  match text with
  | .error f => ⟨f, b.skip⟩
  | .ok _ => b

/-- Reads a string after its opening quote; `text` holds the characters so far, the last one first. The fuel is
the number of characters that are left. -/
def Cursor.stringEnd (fuel : Nat) (text : Except Fault (List Char)) (c : Cursor) :
    Except Break (Except Fault String × Cursor) :=
  match fuel, c.rest with
  | _, [] => .error (Break.afterFault text (.same .unfinishedString c.place))
  | 0, _ => .error (Break.afterFault text (.same .unfinishedString c.place))
  | fuel + 1, x :: _ =>
    if x = '"' then .ok (text.map fun cs => String.ofList cs.reverse, c.step)
    else if x = '\\' then
      match c.step.escape with
      | .error b => .error (Break.afterFault text b)
      | .ok e => Cursor.stringEnd fuel (pushChar text e.value) e.next
    else if x.toNat < 0x20 then
      .error (Break.afterFault text ⟨⟨.controlCharacter, c.step.place⟩, ⟨.controlCharacter, c.place⟩⟩)
    else Cursor.stringEnd fuel (pushChar text (.ok x)) c.step

/-- Reads a string after its opening quote. -/
def Cursor.string (c : Cursor) : Except Break (Except Fault String × Cursor) :=
  c.stringEnd c.rest.length (.ok [])

end QueryGate.Json
