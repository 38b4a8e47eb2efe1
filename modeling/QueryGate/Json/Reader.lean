import QueryGate.Json.Cursor
/-!
From a text to its document, and from a document to a value. A value may stand inside at most 127 lists and
objects; one who skips over a value has no such limit.
-/
set_option autoImplicit false

namespace QueryGate.Json

/-- A document, and the cursor after it unless the text broke off inside. -/
abbrev Reading (α : Type) : Type := α × Option Cursor

/-- A word of the notation, after its first letter. -/
def Cursor.constant (start : Place) (letters : List Char) (make : Place → Place → Document) (c : Cursor) :
    Reading Document :=
  match Cursor.word letters c with
  | .ok next => (make start next.place, some next)
  | .error b => (.broken start b, none)

/-- A number, after its sign. -/
def Cursor.number (start : Place) (negative : Bool) (c : Cursor) : Reading Document :=
  match c.literal negative with
  | .ok (l, next) => (.number start (l.value next.place) next.place, some next)
  | .error b => (.broken start b, none)

/-- What is reached from the end of an item: blanks are passed, then the closing bracket or a comma with more
blanks, if one is there. -/
def Cursor.settleItem (c : Cursor) : Place :=
  let c := c.skipBlanks
  match c.rest with
  | ']' :: _ => c.step.place
  | ',' :: _ => c.step.skipBlanks.place
  | _ => c.place

/-- What is reached from the end of a key or a value: blanks are passed, then the closing brace, if it is there. -/
def Cursor.settleMember (c : Cursor) : Place :=
  let c := c.skipBlanks
  match c.rest with
  | '\x7d' :: _ => c.step.place
  | _ => c.place

mutual

/-- Reads the value at a cursor. -/
def readValue (fuel : Nat) (c : Cursor) : Reading Document :=
  let c := c.skipBlanks
  match fuel, c.rest with
  | _, [] => (.broken c.place (.same .unfinishedValue c.place), none)
  -- not reached from a whole text, whose length bounds the fuel
  | 0, _ => (.broken c.place (.same .unfinishedValue c.place), none)
  | fuel + 1, x :: _ =>
    if x = 'n' then c.step.constant c.place ['u', 'l', 'l'] .null
    else if x = 't' then c.step.constant c.place ['r', 'u', 'e'] (.boolean · true)
    else if x = 'f' then c.step.constant c.place ['a', 'l', 's', 'e'] (.boolean · false)
    else if x = '-' then c.step.number c.place true
    else if x.isDigit then c.number c.place false
    else if x = '"' then
      match c.step.string with
      | .ok (s, next) => (.string c.place s next.place, some next)
      | .error b => (.broken c.place b, none)
    else if x = '[' then
      let (items, next) := readItems fuel true c.step
      (.list c.place items, next)
    else if x = '\x7b' then
      let (members, next) := readMembers fuel true c.step
      (.object c.place members, next)
    else (.broken c.place (.same .expectedValue c.afterByte), none)

/-- Reads what follows an opening bracket, or an item. -/
def readItems (fuel : Nat) (first : Bool) (c : Cursor) : Reading Items :=
  let c := c.skipBlanks
  match fuel, c.rest with
  | _, [] => (.stop (.same .unfinishedList c.place), none)
  | 0, _ => (.stop (.same .unfinishedList c.place), none)
  | fuel + 1, x :: _ =>
    if x = ']' then (.close c.step.place, some c.step)
    else if first then readItem fuel c
    else if x = ',' then
      let d := c.step.skipBlanks
      match d.rest with
      -- one who skips over the list misses an item, where a reader sees a comma too many
      | ']' :: _ =>
        (.item (.broken d.place (.differing .trailingComma .expectedValue d.afterByte)) d.place
          (.stop (.differing .trailingComma .expectedValue d.afterByte)), none)
      | _ => readItem fuel d
    else (.stop (.same .expectedCommaOrBracket c.afterByte), none)

/-- Reads an item and what follows it. -/
def readItem (fuel : Nat) (c : Cursor) : Reading Items :=
  match fuel with
  | 0 => (.stop (.same .unfinishedList c.place), none)
  | fuel + 1 =>
    match readValue fuel c with
    | (value, none) => (.item value c.place (.stop (.same .unfinishedList c.place)), none)
    | (value, some next) =>
      let (rest, last) := readItems fuel false next
      (.item value next.settleItem rest, last)

/-- Reads what follows an opening brace, or a member. -/
def readMembers (fuel : Nat) (first : Bool) (c : Cursor) : Reading Members :=
  let c := c.skipBlanks
  match fuel, c.rest with
  | _, [] => (.stop (.same .unfinishedObject c.place), none)
  | 0, _ => (.stop (.same .unfinishedObject c.place), none)
  | fuel + 1, x :: _ =>
    if x = '\x7d' then (.close c.step.place, some c.step)
    else if first then
      if x = '"' then readMember fuel c.step
      else (.stop (.same .expectedKey c.afterByte), none)
    else if x = ',' then
      let d := c.step.skipBlanks
      match d.rest with
      | [] => (.stop (.differing .unfinishedValue .unfinishedObject d.place), none)
      | y :: _ =>
        if y = '"' then readMember fuel d.step
        else if y = '\x7d' then (.stop (.differing .trailingComma .expectedKey d.afterByte), none)
        else (.stop (.same .expectedKey d.afterByte), none)
    else (.stop (.same .expectedCommaOrBrace c.afterByte), none)

/-- Reads a member after the opening quote of its key, and what follows it. -/
def readMember (fuel : Nat) (c : Cursor) : Reading Members :=
  match fuel with
  | 0 => (.stop (.same .unfinishedObject c.place), none)
  | fuel + 1 =>
    match c.string with
    | .error b => (.stop b, none)
    | .ok (key, next) =>
      let d := next.skipBlanks
      match d.rest with
      | [] =>
        (.member key next.place next.settleMember (.broken d.place (.same .unfinishedObject d.place)) d.place
          (.stop (.same .unfinishedObject d.place)), none)
      | y :: _ =>
        if y = ':' then
          match readValue fuel d.step with
          | (value, none) =>
            (.member key next.place next.settleMember value d.place (.stop (.same .unfinishedObject d.place)), none)
          | (value, some after) =>
            let (rest, last) := readMembers fuel false after
            (.member key next.place next.settleMember value after.settleMember rest, last)
        else
          (.member key next.place next.settleMember (.broken d.place (.same .expectedColon d.afterByte)) d.place
            (.stop (.same .expectedColon d.afterByte)), none)

end

/-- A whole text: its document, and the complaint about what follows it, if anything but blanks does. -/
structure Source where
  document : Document
  surplus : Option Fault

/-- Reads a text. A step of reading passes a character or opens a level, which bounds the fuel by three times the
length. -/
def Source.ofText (text : String) : Source :=
  let c := Cursor.ofText text
  let (document, next) := readValue (3 * c.rest.length + 3) c
  let surplus := match next with
    | none => none
    | some after =>
      let d := after.skipBlanks
      if d.rest.isEmpty then none else some ⟨.trailingCharacters, d.afterByte⟩
  ⟨document, surplus⟩

/-! ## Values -/

/-- How many lists and objects may be open at once, and one more. -/
def depthLimit : Nat := 128

/-- The complaint about a list or an object that opens one level too many. -/
def tooDeep (start : Place) : Fault := ⟨.tooDeep, ⟨start.line, start.column + 1⟩⟩

mutual

/-- The value of a document with so many levels left. -/
def Document.value (depth : Nat) : Document → Except Fault Value
  | .null _ _ => .ok .null
  | .boolean _ b _ => .ok (.boolean b)
  | .number _ n _ => n.map .number
  | .string _ s _ => s.map .string
  | .list start items =>
    if depth ≤ 1 then .error (tooDeep start) else (Items.values (depth - 1) items).map .list
  | .object start members =>
    if depth ≤ 1 then .error (tooDeep start) else (Members.values (depth - 1) members).map .ofMembers
  | .broken _ b => .error b.read

/-- The values of the items of a list. -/
def Items.values (depth : Nat) : Items → Except Fault (List Value)
  | .stop b => .error b.read
  | .close _ => .ok []
  | .item d _ rest => do
    let v ← d.value depth
    let vs ← Items.values depth rest
    .ok (v :: vs)

/-- The members of an object in the order of the text. -/
def Members.values (depth : Nat) : Members → Except Fault (List (String × Value))
  | .stop b => .error b.read
  | .close _ => .ok []
  | .member key _ _ d _ rest => do
    let k ← key
    let v ← d.value depth
    let vs ← Members.values depth rest
    .ok ((k, v) :: vs)

end

mutual

/-- The complaint of one who skips over a document, if there is one. -/
def Document.skip : Document → Option Fault
  | .list _ items => Items.skip items
  | .object _ members => Members.skip members
  | .broken _ b => some b.skip
  | _ => none

/-- The complaint of one who skips over items. -/
def Items.skip : Items → Option Fault
  | .stop b => some b.skip
  | .close _ => none
  | .item d _ rest => d.skip.or (Items.skip rest)

/-- The complaint of one who skips over members. -/
def Members.skip : Members → Option Fault
  | .stop b => some b.skip
  | .close _ => none
  | .member _ _ _ d _ rest => d.skip.or (Members.skip rest)

end

/-- The result of reading a whole text, once its document has been understood. -/
def Source.finish {α : Type} (s : Source) (result : Except Fault α) : Except Fault α := do
  let a ← result
  match s.surplus with
  | some fault => .error fault
  | none => .ok a

/-- Reads a text that holds one JSON value. -/
def Value.ofText (text : String) : Except Fault Value :=
  let s := Source.ofText text
  s.finish (s.document.value depthLimit)

end QueryGate.Json
