import QueryGate.Number.Layout
/-!
JSON values. Numbers keep how they were written as far as it matters: a natural number, a negative integer and a
binary floating-point number are three different things, so `1` and `1.0` differ. The members of an object are
kept sorted by key, and a key occurs once.
-/
set_option autoImplicit false

namespace QueryGate.Json

/-- A number of a JSON text. -/
inductive Numeral where
  | natural (value : Nat)
  /-- The negative integer `-(n + 1)`. -/
  | negative (n : Nat)
  | real (value : Number.Binary64)
deriving DecidableEq, Repr

/-- A JSON value. -/
inductive Value where
  | null
  | boolean (value : Bool)
  | number (value : Numeral)
  | string (value : String)
  | list (items : List Value)
  | object (members : List (String × Value))
deriving Repr

namespace Numeral

/-- JSON writes numbers positionally from `0.00001` to below `10 ^ 16`, and whole ones with `.0`. -/
def layout : Number.Layout := ⟨some (-5, 16), true, "null", "null"⟩

/-- The text of a number. -/
def write : Numeral → String
  | natural n => toString n
  | negative n => "-" ++ toString (n + 1)
  | real x => layout.write x

/-- The number as a binary floating-point number. -/
def toBinary64 : Numeral → Number.Binary64
  | natural n => .ofNat n
  | negative n => (Number.Binary64.ofNat (n + 1)).neg
  | real x => x

end Numeral

namespace Value

/-- Puts a member into sorted members; an equal key is replaced. -/
def insertMember (key : String) (value : Value) : List (String × Value) → List (String × Value)
  | [] => [(key, value)]
  | (k, v) :: rest =>
    if key = k then (key, value) :: rest
    else if key < k then (key, value) :: (k, v) :: rest
    else (k, v) :: insertMember key value rest

/-- The object with these members; of equal keys the last one counts. -/
def ofMembers (members : List (String × Value)) : Value :=
  object (members.foldl (fun sorted m => insertMember m.1 m.2 sorted) [])

/-- The member of an object under a key; nothing for other values. -/
def get? (v : Value) (key : String) : Option Value :=
  match v with
  | object members => members.lookup key
  | _ => none

/-- The text of a string value. -/
def asString? : Value → Option String
  | string s => some s
  | _ => none

/-- The items of a list value. -/
def asList? : Value → Option (List Value)
  | list items => some items
  | _ => none

/-- Whether a value is an object. -/
def isObject : Value → Bool
  | object _ => true
  | _ => false

end Value

end QueryGate.Json
