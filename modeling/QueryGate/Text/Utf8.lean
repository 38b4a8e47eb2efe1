/-!
Bytes as UTF-8 text. Bytes that are none are told apart into the longest beginnings of a character that does not go
on, and single bytes that begin none.
-/
set_option autoImplicit false

namespace QueryGate.Text.Utf8

/-- What a piece of bytes is. -/
inductive Piece where
  | character (c : Char)
  /-- So many bytes do not go on to a character. -/
  | broken (bytes : Nat)
  /-- So many bytes end before their character does. -/
  | unfinished (bytes : Nat)
deriving DecidableEq, Repr

/-- Where one stands between two bytes. -/
inductive State where
  | between
  /-- Within a character: the number that its bytes so far make, how many they are, how many more are due, and the
  least and the greatest byte that may come next. -/
  | within (code bytes due low high : Nat)
deriving DecidableEq, Repr

/-- What a byte that is none of ASCII asks for: how many more bytes, and the least and the greatest that may come
next. -/
def leading? (b : Nat) : Option (Nat × Nat × Nat) :=
  if 0xc2 ≤ b ∧ b ≤ 0xdf then some (1, 0x80, 0xbf)
  else if b = 0xe0 then some (2, 0xa0, 0xbf)
  else if b = 0xed then some (2, 0x80, 0x9f)
  else if 0xe1 ≤ b ∧ b ≤ 0xef then some (2, 0x80, 0xbf)
  else if b = 0xf0 then some (3, 0x90, 0xbf)
  else if b = 0xf4 then some (3, 0x80, 0x8f)
  else if 0xf1 ≤ b ∧ b ≤ 0xf3 then some (3, 0x80, 0xbf)
  else none

/-- A byte between characters. -/
def first (b : Nat) : List Piece × State :=
  if b < 0x80 then ([.character (Char.ofNat b)], .between)
  else
    match leading? b with
    | some (due, low, high) => ([], .within (b % Nat.pow 2 (6 - due)) 1 due low high)
    | none => ([.broken 1], .between)

/-- A byte. -/
def State.next (b : Nat) : State → List Piece × State
  | between => first b
  | within code bytes due low high =>
    if low ≤ b ∧ b ≤ high then
      let code := 64 * code + b % 64
      if due ≤ 1 then ([.character (Char.ofNat code)], .between) else ([], .within code (bytes + 1) (due - 1) 0x80 0xbf)
    else
      let (pieces, s) := first b
      (.broken bytes :: pieces, s)

/-- The pieces of bytes. -/
def State.pieces (s : State) : List UInt8 → List Piece
  | [] =>
    match s with
    | between => []
    | within _ bytes _ _ _ => [.unfinished bytes]
  | b :: rest =>
    let (found, s) := s.next b.toNat
    found ++ s.pieces rest

/-- The pieces of bytes. -/
def pieces (bytes : List UInt8) : List Piece := State.between.pieces bytes

/-- Why bytes are no text. -/
inductive Utf8Fault where
  | broken (bytes index : Nat)
  | unfinished (index : Nat)
deriving DecidableEq, Repr

/-- The wording of why bytes are no text. -/
def Utf8Fault.message : Utf8Fault → String
  | broken bytes index => "invalid utf-8 sequence of " ++ toString bytes ++ " bytes from index " ++ toString index
  | unfinished index => "incomplete utf-8 byte sequence from index " ++ toString index

/-- What is wrong with pieces, the first of which stands at an index, if anything is. -/
def checkPieces (index : Nat) : List Piece → Except Utf8Fault Unit
  | [] => .ok ()
  | .character c :: rest => checkPieces (index + c.utf8Size) rest
  | .broken bytes :: _ => .error (.broken bytes index)
  | .unfinished _ :: _ => .error (.unfinished index)

/-- What is wrong with bytes as a text, if anything is. -/
def check (bytes : List UInt8) : Except Utf8Fault Unit := checkPieces 0 (pieces bytes)

/-- The character that stands for bytes which are none. -/
def replacement : Char := '\ufffd'

/-- The character that stands for a piece. -/
def Piece.char : Piece → Char
  | character c => c
  | _ => replacement

/-- Bytes as a text, with a replacement for what is no character. -/
def decode (bytes : List UInt8) : List Char := (pieces bytes).map Piece.char

end QueryGate.Text.Utf8
