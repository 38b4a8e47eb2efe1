import QueryGate.Text.Hexadecimal
import QueryGate.Text.Split
/-!
Hosts that are given by numbers: four of them with dots between, or eight groups of hexadecimal digits with colons
between, where two colons can stand for groups of zeros.
-/
set_option autoImplicit false

namespace QueryGate.Settings.Address

/-- The number that digits of a radix stand for. -/
def numberOf (radix : Nat) (cs : List Char) : Nat :=
  cs.foldl (fun n c => radix * n + (Text.hexValue? c).getD 0) 0

/-- Whether this is a number below 256 in decimal digits, without zeros before it. -/
def isOctet (cs : List Char) : Bool :=
  cs ≠ [] && cs.all Char.isDigit && (cs.head? ≠ some '0' || cs.length = 1) && decide (numberOf 10 cs < 256)

/-- Whether these are four numbers below 256 with dots between them. -/
def isDotted (cs : List Char) : Bool :=
  let parts := Text.splitAll (· = '.') cs
  parts.length = 4 && parts.all isOctet

/-- Whether this is a group of up to four hexadecimal digits. -/
def isGroup (cs : List Char) : Bool :=
  cs ≠ [] && decide (cs.length ≤ 4) && cs.all fun c => (Text.hexValue? c).isSome

/-- How many groups stand in a text with single colons between them. Four numbers can stand in place of the last two
groups of an address. -/
def groupCount? (endsAddress : Bool) (cs : List Char) : Option Nat :=
  if cs = [] then some 0
  else
    let parts := Text.splitAll (· = ':') cs
    let last := parts.getLastD []
    if ¬ parts.dropLast.all isGroup then none
    else if isGroup last then some parts.length
    else if endsAddress && isDotted last then some (parts.length + 1)
    else none

/-- What stands on both sides of the first two colons that follow each other. -/
def splitGap? : List Char → Option (List Char × List Char)
  | ':' :: ':' :: rest => some ([], rest)
  | c :: rest => (splitGap? rest).map fun (before, after) => (c :: before, after)
  | [] => none

/-- Whether this is an address of eight groups. -/
def isGrouped (cs : List Char) : Bool :=
  match splitGap? cs with
  | none => groupCount? true cs = some 8
  | some (before, after) =>
    match groupCount? false before, groupCount? true after with
    | some m, some n => decide (m + n < 8)
    | _, _ => false

/-- Whether this is a host given by numbers. -/
def isNumeric (cs : List Char) : Bool := isDotted cs || isGrouped cs

/-- The number that a part of a lenient four-part address stands for: an octal one begins with `0`, a hexadecimal one
with `0x`. -/
def lenientNumber? : List Char → Option Nat
  | [] => none
  | '0' :: 'x' :: rest => if rest.all fun c => (Text.hexValue? c).isSome then some (numberOf 16 rest) else none
  | '0' :: 'X' :: rest => if rest.all fun c => (Text.hexValue? c).isSome then some (numberOf 16 rest) else none
  | '0' :: c :: rest =>
    if (c :: rest).all fun d => decide ('0' ≤ d ∧ d ≤ '7') then some (numberOf 8 (c :: rest)) else none
  | cs => if cs.all Char.isDigit then some (numberOf 10 cs) else none

/-- The parts of a name between its dots. One dot at the end does not count. -/
def labels (cs : List Char) : List (List Char) :=
  let parts := Text.splitAll (· = '.') cs
  if 1 < parts.length ∧ parts.getLast? = some [] then parts.dropLast else parts

/-- Whether a name ends in a number, so that it has to be a lenient four-part address. -/
def endsInNumber (cs : List Char) : Bool :=
  match (labels cs).getLast? with
  | none => false
  | some last => (last ≠ [] && last.all Char.isDigit) || (lenientNumber? last).isSome

/-- Whether numbers are those of a four-part address: the last one fills the bytes that the others leave. -/
def fillFourBytes (numbers : List Nat) : Bool :=
  match numbers.getLast? with
  | none => false
  | some last =>
    decide (numbers.length ≤ 4) && numbers.dropLast.all (fun n => decide (n < 256))
      && decide (last < Nat.pow 256 (5 - numbers.length))

/-- Whether this is a lenient four-part address. -/
def isLenientDotted (cs : List Char) : Bool :=
  match (labels cs).mapM lenientNumber? with
  | some numbers => fillFourBytes numbers
  | none => false

end QueryGate.Settings.Address
