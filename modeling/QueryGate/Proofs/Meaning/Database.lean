import QueryGate.Guard.Binding
import QueryGate.Statement.Select
/-!
A database as far as statements can tell: the rows of its views, and how it reads, casts, compares and ranks values.
Only what SQL fixes about them is fixed here. Null compares with nothing, conditions are true, false or unknown, and a
cast between arrays casts each item.
-/
set_option autoImplicit false

namespace QueryGate.Meaning

open Json Statement

/-! ## Conditions -/

/-- What a condition can come to. -/
inductive Truth where
  | yes
  | no
  | unknown
deriving DecidableEq, Repr

namespace Truth

/-- A truth value that is known. -/
def ofBool : Bool → Truth
  | true => .yes
  | false => .no

/-- Both of two conditions: one that fails decides, otherwise both have to be known. -/
def and : Truth → Truth → Truth
  | .no, _ => .no
  | _, .no => .no
  | .yes, .yes => .yes
  | _, _ => .unknown

/-- One of two conditions: one that holds decides, otherwise both have to be known. -/
def or : Truth → Truth → Truth
  | .yes, _ => .yes
  | _, .yes => .yes
  | .no, .no => .no
  | _, _ => .unknown

/-- One of some conditions. -/
def any (ts : List Truth) : Truth := ts.foldr or .no

/-- A conjunction holds exactly if both its parts do. -/
theorem and_eq_yes_iff (s t : Truth) : s.and t = .yes ↔ s = .yes ∧ t = .yes := by
  cases s <;> cases t <;> simp [and]

/-- A disjunction of a single condition is that condition. -/
theorem any_singleton (t : Truth) : any [t] = t := by
  cases t <;> rfl

end Truth

/-! ## Values -/

/-- What an expression comes to: a value or null, an array, the values that `ANY` ranges over, or a truth value. -/
inductive Datum (V : Type) where
  | single (value : Option V)
  | array (items : List (Option V))
  | anyOf (items : List (Option V))
  | truth (value : Truth)

/-- A row: what stands in each of its columns. -/
abbrev Row (V : Type) : Type := String → Option V

/-- A database over some values. -/
structure Database (V : Type) where
  /-- The rows of each view, in the order in which they are read. -/
  rows : String → List (Row V)
  /-- A text as a value. -/
  text : String → V
  /-- A truth value as a value. -/
  boolean : Bool → V
  /-- Whether a value counts as true. -/
  isTrue : V → Bool
  /-- An array as one value. -/
  pack : List (Option V) → V
  /-- The items of one value that is read as an array. -/
  unpack : V → List (Option V)
  /-- A value cast to a type. -/
  cast : BaseType → V → V
  /-- How two values compare under an operator. -/
  compare : Operator → V → V → Truth
  /-- Which of two values, or nulls, comes first in an ascending order. -/
  rank : Option V → Option V → Ordering

/-- The row of a table that is joined without a match. -/
def emptyRow (V : Type) : Row V := fun _ => none

namespace Database

variable {V : Type} (db : Database V)

/-- A truth value as a value; an unknown one is null. -/
def ofTruth : Truth → Option V
  | .yes => some (db.boolean true)
  | .no => some (db.boolean false)
  | .unknown => none

/-- What an expression comes to, as one value. The values that `ANY` ranges over are none. -/
def scalar : Datum V → Option V
  | .single value => value
  | .array items => some (db.pack items)
  | .anyOf _ => none
  | .truth t => db.ofTruth t

/-- What an expression comes to, as a condition. -/
def truthOf : Datum V → Truth
  | .truth t => t
  | d =>
    match db.scalar d with
    | none => .unknown
    | some v => .ofBool (db.isTrue v)

/-- Two values compared; nothing is known of null. -/
def compareValues (operator : Operator) : Option V → Option V → Truth
  | some a, some b => db.compare operator a b
  | _, _ => .unknown

/-- A value compared with what stands on the right of an operator: with one of the values if it is `ANY` of them. -/
def compareWith (operator : Operator) (a : Option V) : Datum V → Truth
  | .anyOf items => .any (items.map (db.compareValues operator a))
  | d => db.compareValues operator a (db.scalar d)

/-- The items of what an expression comes to. Null has null as its only item. -/
def itemsOf : Datum V → List (Option V)
  | .array items => items
  | d =>
    match db.scalar d with
    | none => [none]
    | some v => db.unpack v

/-- What an expression comes to, cast to a type. -/
def castTo : CastType → Datum V → Datum V
  | .base type, d => .single ((db.scalar d).map (db.cast type))
  | .array type, d => .array ((db.itemsOf d).map fun item => item.map (db.cast type))

/-- A text that is received; a missing one is null. -/
def receivedText (text : Option String) : Option V := text.map db.text

/-- A parameter as it is received. -/
def received (value : Value) : Datum V :=
  match Guard.Bound.ofValue value with
  | .text text => .single (db.receivedText text)
  | .array items => .array (items.map db.receivedText)

end Database

/-! ## Joins -/

/-- The rows of a table with which a row is joined: those that match it. If none does, a join that keeps such a row
takes an empty one. -/
def partners {V : Type} (kind : Contract.JoinKind) (rows : List (Row V)) (isMatch : Row V → Bool) : List (Row V) :=
  match kind, rows.filter isMatch with
  | .left, [] => [emptyRow V]
  | _, found => found

/-! ## Orders -/

/-- One comparison after the other: a later one counts where the earlier ones do not tell. -/
def lexicographic {α : Type} : List (α → α → Ordering) → α → α → Ordering
  | [], _, _ => .eq
  | f :: rest, a, b => (f a b).then (lexicographic rest a b)

/-- Rows in an order; rows between which it does not tell stay as they stand. -/
def sortBy {α : Type} (comparisons : List (α → α → Ordering)) (rows : List α) : List α :=
  rows.mergeSort fun a b => (lexicographic comparisons a b).isLE

section SortBy

variable {α β κ : Type} {keys : List κ}

/-- Orders whose keys compare alike are alike. -/
theorem lexicographic_congr {f : κ → α → α → Ordering} {g : κ → β → β → Ordering} {a b : α} {c d : β}
    (h : ∀ k ∈ keys, f k a b = g k c d) : lexicographic (keys.map f) a b = lexicographic (keys.map g) c d := by
  induction keys with
  | nil => rfl
  | cons k rest ih =>
      have hrest := ih (fun l hl => h l (List.mem_cons_of_mem _ hl))
      rw [List.map_cons, List.map_cons, lexicographic, lexicographic, h k List.mem_cons_self, hrest]

/-- Sorting commutes with a function under which the rows compare alike. -/
theorem map_sortBy (m : α → β) {f : κ → α → α → Ordering} {g : κ → β → β → Ordering} {rows : List α}
    (h : ∀ k ∈ keys, ∀ a ∈ rows, ∀ b ∈ rows, f k a b = g k (m a) (m b)) :
    (sortBy (keys.map f) rows).map m = sortBy (keys.map g) (rows.map m) := by
  rw [sortBy, sortBy]
  apply List.map_mergeSort
  intro a ha b hb
  rw [lexicographic_congr fun k hk => h k hk a ha b hb]

/-- Sorting brings in no other rows. -/
theorem mem_of_mem_sortBy {comparisons : List (α → α → Ordering)} {rows : List α} {a : α}
    (h : a ∈ sortBy comparisons rows) : a ∈ rows :=
  List.mem_mergeSort.1 h

end SortBy

end QueryGate.Meaning
