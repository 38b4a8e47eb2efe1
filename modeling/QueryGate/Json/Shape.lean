import QueryGate.Json.Reader
/-!
Reading documents of a fixed shape: whole numbers of a limited size, texts, truth values, lists, maps, records and
choices. A record may be written as an object or as the list of its fields in their order; in an object, fields that
are not known are skipped and a known field may occur once. The complaint that comes first in the text wins.
-/
set_option autoImplicit false

namespace QueryGate.Json

/-- A complaint about a shape, which may leave its place to the record that it arose in. -/
inductive Complaint where
  | placed (fault : Fault)
  | unplaced (cause : Cause)
deriving DecidableEq, Repr

/-- The complaint at the place where the record around it stands. -/
def Complaint.settle (place : Place) : Complaint → Fault
  | .placed fault => fault
  | .unplaced cause => ⟨cause, place⟩

/-- A reader of documents of one shape, with so many levels left. -/
abbrev Shape (α : Type) : Type := Nat → Document → Except Complaint α

/-- The complaint about a document that is not of the wanted kind. -/
def Document.wrongType (wanted : String) : Document → Fault
  | .null _ finish => ⟨.wrongType .null wanted, finish⟩
  | .boolean _ b finish => ⟨.wrongType (.boolean b) wanted, finish⟩
  | .number _ (.error fault) _ => fault
  | .number _ (.ok (.real x)) finish => ⟨.wrongType (.floating (Numeral.real x).write) wanted, finish⟩
  | .number _ (.ok n) finish => ⟨.wrongType (.integer n.write) wanted, finish⟩
  | .string _ (.error fault) _ => fault
  | .string _ (.ok s) finish => ⟨.wrongType (.string s) wanted, finish⟩
  | .list start _ => ⟨.wrongType .list wanted, start⟩
  | .object start _ => ⟨.wrongType .object wanted, start⟩
  | .broken _ b => b.read

namespace Shape

/-- A whole number below a bound. -/
def wholeNumber (wanted : String) (bound : Nat) : Shape Nat := fun _ d =>
  match d with
  | .number _ (.ok (.natural n)) finish =>
    if n < bound then .ok n else .error (.placed ⟨.outOfRange n wanted, finish⟩)
  | .number _ (.ok (.negative n)) finish => .error (.placed ⟨.outOfRange (.negSucc n) wanted, finish⟩)
  | _ => .error (.placed (d.wrongType wanted))

/-- A whole number of 32 bits. -/
def word32 : Shape UInt32 := fun depth d => (wholeNumber "u32" UInt32.size depth d).map UInt32.ofNat

/-- A whole number of 64 bits. -/
def word64 : Shape UInt64 := fun depth d => (wholeNumber "u64" UInt64.size depth d).map UInt64.ofNat

/-- A text. -/
def text : Shape String := fun _ d =>
  match d with
  | .string _ (.ok s) _ => .ok s
  | _ => .error (.placed (d.wrongType "a string"))

/-- A truth value. -/
def truth : Shape Bool := fun _ d =>
  match d with
  | .boolean _ b _ => .ok b
  | _ => .error (.placed (d.wrongType "a boolean"))

/-- Nothing, written as null, or something of a shape. -/
def optional {α : Type} (shape : Shape α) : Shape (Option α) := fun depth d =>
  match d with
  | .null _ _ => .ok none
  | _ => (shape depth d).map some

/-- Reads the items of a list. -/
def items {α : Type} (shape : Shape α) (depth : Nat) : Items → Except Fault (List α)
  | .stop b => .error b.read
  | .close _ => .ok []
  | .item d settled rest =>
    match shape depth d with
    | .error c => .error (c.settle settled)
    | .ok a => (items shape depth rest).map (a :: ·)

/-- A list of items of one shape. -/
def listOf {α : Type} (shape : Shape α) : Shape (List α) := fun depth d =>
  match d with
  | .list start is =>
    if depth ≤ 1 then .error (.placed (tooDeep start))
    else (items shape (depth - 1) is).mapError .placed
  | _ => .error (.placed (d.wrongType "a sequence"))

/-- Reads the members of a map. -/
def members {α : Type} (shape : Shape α) (depth : Nat) : Members → Except Fault (List (String × α))
  | .stop b => .error b.read
  | .close _ => .ok []
  | .member key _ _ d settled rest =>
    match key with
    | .error fault => .error fault
    | .ok name =>
      match shape depth d with
      | .error c => .error (c.settle settled)
      | .ok a => (members shape depth rest).map ((name, a) :: ·)

/-- A map from names to values of one shape: its members in the order of the text, with their repetitions. -/
def mapOf {α : Type} (shape : Shape α) : Shape (List (String × α)) := fun depth d =>
  match d with
  | .object start ms =>
    if depth ≤ 1 then .error (.placed (tooDeep start))
    else (members shape (depth - 1) ms).mapError .placed
  | _ => .error (.placed (d.wrongType "a map"))

/-! ## Choices -/

/-- Looks a name up among the known ones. -/
def choose {α : Type} (known : List (String × α)) (listing : String) (place : Place) (name : String) :
    Except Fault α :=
  match known.lookup name with
  | some a => .ok a
  | none => .error ⟨.unknownVariant name listing, place⟩

/-- One of a few named values, written as its name, or as an object that gives null under that name. -/
def choice {α : Type} (known : List (String × α)) (listing : String) : Shape α := fun depth d =>
  match d with
  | .string _ (.ok name) finish => (choose known listing finish name).mapError .placed
  | .string _ (.error fault) _ => .error (.placed fault)
  | .object start ms =>
    if depth ≤ 1 then .error (.placed (tooDeep start))
    else
      match ms with
      | .close finish => .error (.placed ⟨.expectedValue, finish⟩)
      | .stop b => .error (.placed b.read)
      | .member (.error fault) .. => .error (.placed fault)
      | .member (.ok name) keyFinish _ value settled rest =>
        match choose known listing keyFinish name with
        | .error fault => .error (.placed fault)
        | .ok a =>
          match value, rest with
          | .null _ _, .close _ => .ok a
          | .null _ _, .stop b =>
            if b.read.cause = .unfinishedObject then .error (.placed b.read)
            else .error (.placed ⟨.expectedValue, settled⟩)
          | .null _ _, .member .. => .error (.placed ⟨.expectedValue, settled⟩)
          | v, _ => .error (.placed (v.wrongType "unit"))
  | .broken start b =>
    if b.read.cause = .expectedWord ∨ b.read.cause = .invalidNumber
        ∨ (b.read.cause = .unfinishedValue ∧ b.read.place ≠ start) then
      .error (.placed ⟨.expectedValue, ⟨start.line, start.column + 1⟩⟩)
    else .error (.placed b.read)
  | _ => .error (.placed ⟨.expectedValue, ⟨d.start.line, d.start.column + 1⟩⟩)

/-! ## Records -/

/-- A field of a record, read into a draft of the record. -/
structure Field (σ : Type) where
  name : String
  isSet : σ → Bool
  read : Nat → Document → σ → Except Complaint σ

/-- A field whose value has a shape of its own. -/
def field {σ α : Type} (name : String) (get : σ → Option α) (set : σ → α → σ) (shape : Shape α) : Field σ :=
  ⟨name, fun draft => (get draft).isSome, fun depth d draft => (shape depth d).map (set draft)⟩

/-- A record: what it is called, its fields in their order, the draft without any field, and the record that a
draft makes, unless a field without a default is missing. -/
structure Record (σ α : Type) where
  wanted : String
  fields : List (Field σ)
  empty : σ
  finish : σ → Except String α

/-- Reads the members of a record that is written as an object. -/
def recordMembers {σ α : Type} (r : Record σ α) (depth : Nat) (draft : σ) : Members → Except Fault α
  | .stop b => .error b.read
  | .close finish => (r.finish draft).mapError fun name => ⟨.missingField name, finish⟩
  | .member key _ keySettled d settled rest =>
    match key with
    | .error fault => .error fault
    | .ok name =>
      match r.fields.find? (fun f => f.name = name) with
      | none =>
        match d.skip with
        | some fault => .error fault
        | none => recordMembers r depth draft rest
      | some f =>
        if f.isSet draft then .error ⟨.repeatedField name, keySettled⟩
        else
          match f.read depth d draft with
          | .error c => .error (c.settle settled)
          | .ok draft => recordMembers r depth draft rest

/-- The complaint about what stands where a list should close. -/
def surplusItem : Items → Option Fault
  | .close _ => none
  | .stop b =>
    some (if b.read.cause = .unfinishedList then b.read else ⟨.trailingCharacters, b.read.place⟩)
  | .item d _ _ =>
    match d with
    | .broken start b =>
      if b.read.cause = .trailingComma then some b.read
      else if b.read.place = start then some ⟨.trailingCharacters, start⟩
      else some ⟨.trailingCharacters, ⟨start.line, start.column + 1⟩⟩
    | d => some ⟨.trailingCharacters, ⟨d.start.line, d.start.column + 1⟩⟩

/-- The words for the number of fields of a record. -/
def Record.withLength {σ α : Type} (r : Record σ α) : String :=
  let n := r.fields.length
  r.wanted ++ " with " ++ toString n ++ (if n = 1 then " element" else " elements")

/-- Reads the fields of a record that is written as a list. -/
def recordItems {σ α : Type} (r : Record σ α) (depth : Nat) (draft : σ) : List (Field σ) → Items → Except Fault α
  | [], rest =>
    match r.finish draft with
    | .error name => .error ⟨.missingField name, .start⟩
    | .ok a =>
      match surplusItem rest with
      | some fault => .error fault
      | none => .ok a
  | _ :: _, .stop b => .error b.read
  | _ :: _, .close finish =>
    (r.finish draft).mapError fun name =>
      ⟨.wrongLength ((r.fields.findIdx? (fun f => f.name = name)).getD 0) r.withLength, finish⟩
  | f :: fs, .item d settled rest =>
    match f.read depth d draft with
    | .error c => .error (c.settle settled)
    | .ok draft => recordItems r depth draft fs rest

/-- A record. -/
def record {σ α : Type} (r : Record σ α) : Shape α := fun depth d =>
  match d with
  | .object start ms =>
    if depth ≤ 1 then .error (.placed (tooDeep start))
    else (recordMembers r (depth - 1) r.empty ms).mapError .placed
  | .list start is =>
    if depth ≤ 1 then .error (.placed (tooDeep start))
    else (recordItems r (depth - 1) r.empty r.fields is).mapError .placed
  | _ => .error (.placed (d.wrongType r.wanted))

/-- Reads a whole text of one shape. -/
def readText {α : Type} (shape : Shape α) (text : String) : Except Fault α :=
  let s := Source.ofText text
  s.finish ((shape depthLimit s.document).mapError (Complaint.settle s.document.start))

end Shape

end QueryGate.Json
