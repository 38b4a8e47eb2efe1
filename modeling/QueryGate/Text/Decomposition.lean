import QueryGate.Text.Decomposition.Letters
import QueryGate.Text.Decomposition.Symbols
import QueryGate.Text.Decomposition.Ideographs
import QueryGate.Text.Decomposition.Forms
import QueryGate.Text.Decomposition.Supplementary
/-!
Full compatibility decomposition of characters (Unicode, version 17, with forms of Latin letters that version 18
adds). Entries that follow a pattern are kept as runs; the others are kept in pages of 256 code points. An entry of a
page packs the decomposition and then the character itself, six hexadecimal digits each. Hangul syllables are
decomposed by arithmetic.
-/
set_option autoImplicit false

namespace QueryGate.Text.Decomposition

/-- Consecutive characters that decompose to consecutive single characters. -/
structure Run where
  first : Nat
  last : Nat
  target : Nat
deriving Repr

/-- The runs. -/
def runs : List Run :=
  [
    ⟨0x1d33, 0x1d3a, 0x0047⟩, ⟨0x1d5d, 0x1d5f, 0x03b2⟩, ⟨0x1da4, 0x1da6, 0x0268⟩, ⟨0x1dae, 0x1db1, 0x0272⟩,
    ⟨0x1dbc, 0x1dbe, 0x0290⟩, ⟨0x2074, 0x2079, 0x0034⟩, ⟨0x2080, 0x2089, 0x0030⟩, ⟨0x2096, 0x2099, 0x006b⟩,
    ⟨0x2119, 0x211b, 0x0050⟩, ⟨0x2135, 0x2138, 0x05d0⟩, ⟨0x2460, 0x2468, 0x0031⟩, ⟨0x24b6, 0x24cf, 0x0041⟩,
    ⟨0x24d0, 0x24e9, 0x0061⟩, ⟨0x3137, 0x3139, 0x1103⟩, ⟨0x313a, 0x313f, 0x11b0⟩, ⟨0x3141, 0x3143, 0x1106⟩,
    ⟨0x3145, 0x314e, 0x1109⟩, ⟨0x314f, 0x3163, 0x1161⟩, ⟨0x3178, 0x317c, 0x112b⟩, ⟨0x3184, 0x3186, 0x1157⟩,
    ⟨0x3263, 0x3265, 0x1105⟩, ⟨0x3269, 0x326d, 0x110e⟩, ⟨0x32e4, 0x32e9, 0x30ca⟩, ⟨0x32ee, 0x32f2, 0x30de⟩,
    ⟨0x32f5, 0x32fa, 0x30e8⟩, ⟨0x32fb, 0x32fe, 0x30ef⟩, ⟨0xfb24, 0xfb26, 0x05db⟩, ⟨0xfe41, 0xfe44, 0x300c⟩,
    ⟨0xff01, 0xff5e, 0x0021⟩, ⟨0xff85, 0xff8a, 0x30ca⟩, ⟨0xff8f, 0xff93, 0x30de⟩, ⟨0xff96, 0xff9b, 0x30e8⟩,
    ⟨0xffa7, 0xffa9, 0x1103⟩, ⟨0xffaa, 0xffaf, 0x11b0⟩, ⟨0xffb1, 0xffb3, 0x1106⟩, ⟨0xffb5, 0xffbe, 0x1109⟩,
    ⟨0xffc2, 0xffc7, 0x1161⟩, ⟨0xffca, 0xffcf, 0x1167⟩, ⟨0xffd2, 0xffd7, 0x116d⟩, ⟨0xffda, 0xffdc, 0x1173⟩,
    ⟨0xffe9, 0xffec, 0x2190⟩, ⟨0x107b6, 0x107b8, 0x01c0⟩, ⟨0x1ccd6, 0x1ccef, 0x0041⟩,
    ⟨0x1ccf0, 0x1ccf9, 0x0030⟩, ⟨0x1d400, 0x1d419, 0x0041⟩, ⟨0x1d41a, 0x1d433, 0x0061⟩,
    ⟨0x1d434, 0x1d44d, 0x0041⟩, ⟨0x1d44e, 0x1d454, 0x0061⟩, ⟨0x1d456, 0x1d467, 0x0069⟩,
    ⟨0x1d468, 0x1d481, 0x0041⟩, ⟨0x1d482, 0x1d49b, 0x0061⟩, ⟨0x1d4a9, 0x1d4ac, 0x004e⟩,
    ⟨0x1d4ae, 0x1d4b5, 0x0053⟩, ⟨0x1d4b6, 0x1d4b9, 0x0061⟩, ⟨0x1d4bd, 0x1d4c3, 0x0068⟩,
    ⟨0x1d4c5, 0x1d4cf, 0x0070⟩, ⟨0x1d4d0, 0x1d4e9, 0x0041⟩, ⟨0x1d4ea, 0x1d503, 0x0061⟩,
    ⟨0x1d507, 0x1d50a, 0x0044⟩, ⟨0x1d50d, 0x1d514, 0x004a⟩, ⟨0x1d516, 0x1d51c, 0x0053⟩,
    ⟨0x1d51e, 0x1d537, 0x0061⟩, ⟨0x1d53b, 0x1d53e, 0x0044⟩, ⟨0x1d540, 0x1d544, 0x0049⟩,
    ⟨0x1d54a, 0x1d550, 0x0053⟩, ⟨0x1d552, 0x1d56b, 0x0061⟩, ⟨0x1d56c, 0x1d585, 0x0041⟩,
    ⟨0x1d586, 0x1d59f, 0x0061⟩, ⟨0x1d5a0, 0x1d5b9, 0x0041⟩, ⟨0x1d5ba, 0x1d5d3, 0x0061⟩,
    ⟨0x1d5d4, 0x1d5ed, 0x0041⟩, ⟨0x1d5ee, 0x1d607, 0x0061⟩, ⟨0x1d608, 0x1d621, 0x0041⟩,
    ⟨0x1d622, 0x1d63b, 0x0061⟩, ⟨0x1d63c, 0x1d655, 0x0041⟩, ⟨0x1d656, 0x1d66f, 0x0061⟩,
    ⟨0x1d670, 0x1d689, 0x0041⟩, ⟨0x1d68a, 0x1d6a3, 0x0061⟩, ⟨0x1d6a8, 0x1d6b8, 0x0391⟩,
    ⟨0x1d6ba, 0x1d6c0, 0x03a3⟩, ⟨0x1d6c2, 0x1d6da, 0x03b1⟩, ⟨0x1d6e2, 0x1d6f2, 0x0391⟩,
    ⟨0x1d6f4, 0x1d6fa, 0x03a3⟩, ⟨0x1d6fc, 0x1d714, 0x03b1⟩, ⟨0x1d71c, 0x1d72c, 0x0391⟩,
    ⟨0x1d72e, 0x1d734, 0x03a3⟩, ⟨0x1d736, 0x1d74e, 0x03b1⟩, ⟨0x1d756, 0x1d766, 0x0391⟩,
    ⟨0x1d768, 0x1d76e, 0x03a3⟩, ⟨0x1d770, 0x1d788, 0x03b1⟩, ⟨0x1d790, 0x1d7a0, 0x0391⟩,
    ⟨0x1d7a2, 0x1d7a8, 0x03a3⟩, ⟨0x1d7aa, 0x1d7c2, 0x03b1⟩, ⟨0x1d7ce, 0x1d7d7, 0x0030⟩,
    ⟨0x1d7d8, 0x1d7e1, 0x0030⟩, ⟨0x1d7e2, 0x1d7eb, 0x0030⟩, ⟨0x1d7ec, 0x1d7f5, 0x0030⟩,
    ⟨0x1d7f6, 0x1d7ff, 0x0030⟩, ⟨0x1e030, 0x1e038, 0x0430⟩, ⟨0x1e039, 0x1e03b, 0x043a⟩,
    ⟨0x1e03c, 0x1e046, 0x043e⟩, ⟨0x1e051, 0x1e059, 0x0430⟩, ⟨0x1e05f, 0x1e064, 0x0443⟩,
    ⟨0x1ee0a, 0x1ee0d, 0x0643⟩, ⟨0x1ee2a, 0x1ee2d, 0x0643⟩, ⟨0x1ee8b, 0x1ee8d, 0x0644⟩,
    ⟨0x1eeab, 0x1eead, 0x0644⟩, ⟨0x1f130, 0x1f149, 0x0041⟩, ⟨0x1fbf0, 0x1fbf9, 0x0030⟩]

/-- All pages. -/
def pages : List (Nat × List Nat) :=
  lettersPages ++ symbolsPages ++ ideographsPages ++ formsPages ++ supplementaryPages

/-- The size of one field of a packed entry. -/
def fieldSize : Nat := 0x1000000

/-- The code points packed into a number, the highest first. A decomposition has at most eighteen. -/
def unpack : Nat → Nat → List Nat
  | 0, _ => []
  | fuel + 1, n => if n = 0 then [] else unpack fuel (n / fieldSize) ++ [n % fieldSize]

/-- The decomposition of a code point by the pages. -/
def byPage (code : Nat) : Option (List Nat) := do
  let page ← pages.lookup (code / 256)
  let entry ← page.find? fun e => e % fieldSize = code
  return unpack 18 (entry / fieldSize)

/-- The decomposition of a code point by the runs. -/
def byRun (code : Nat) : Option (List Nat) :=
  (runs.find? fun r => r.first ≤ code && code ≤ r.last).map fun r => [r.target + (code - r.first)]

/-- The decomposition of a Hangul syllable into its letters. -/
def hangul (code : Nat) : Option (List Nat) :=
  if 0xac00 ≤ code ∧ code ≤ 0xd7a3 then
    let n := code - 0xac00
    let lead := 0x1100 + n / 588
    let vowel := 0x1161 + n % 588 / 28
    let tail := n % 28
    some (if tail = 0 then [lead, vowel] else [lead, vowel, 0x11a7 + tail])
  else none

end Decomposition

/-- The full compatibility decomposition of a character. ASCII characters stand for themselves. -/
def decompose (c : Char) : List Char :=
  if c.toNat < 0x80 then [c]
  else
    match (Decomposition.byPage c.toNat).or ((Decomposition.byRun c.toNat).or (Decomposition.hangul c.toNat)) with
    | some codes => codes.map Char.ofNat
    | none => [c]

end QueryGate.Text
