import QueryGate.Json.Printer
import QueryGate.Json.Reader
import QueryGate.Text.Blank
/-!
Plans as they are received. Nothing in them has been checked: every member is optional, and what does not have the
expected shape is dropped or kept as text. A reply of the planner is a plan, a message, or neither.
-/
set_option autoImplicit false

namespace QueryGate.Plan

open Json

/-- A filter as it is received. -/
structure RawPredicate where
  field : String
  op : String
  value : Value

/-- A key of the order as it is received. -/
structure RawSortKey where
  field : String
  direction : Option String

/-- A plan as it is received. -/
structure RawPlan where
  /-- The resource by any of its names. -/
  resource : String
  /-- The names of the relations to join; a request without a name keeps its place. -/
  joins : List (Option String)
  /-- The fields asked for, unless the plan has no list of them or an empty one. -/
  select : Option (List String)
  filters : List RawPredicate
  sort : List RawSortKey
  limit : Option Value

/-- Why a value is no plan: what it is instead of an object. -/
inductive NotAnObject where
  | null
  | boolean
  | number
  | string
  | list
deriving DecidableEq, Repr

/-- The words for what a value is. -/
def NotAnObject.describe : NotAnObject → String
  | .null => "null"
  | .boolean => "a boolean"
  | .number => "a number"
  | .string => "a string"
  | .list => "an array"

/-- A value as text: a string as it is, null as nothing, anything else as its compact text. -/
def textOf : Value → String
  | .string text => text
  | .null => ""
  | v => v.compact

/-- The text of a member; an absent one is nothing. -/
def textOfMember (v : Value) (name : String) : String := ((v.get? name).map textOf).getD ""

/-- The items of a member that is a list; anything else has none. -/
def itemsOfMember (v : Value) (name : String) : List Value := ((v.get? name).bind Value.asList?).getD []

/-- A join request: the name of the relation, unless it is no text or an empty one. -/
def readJoin (v : Value) : Option String :=
  ((v.get? "resource").bind Value.asString?).filter fun name => name ≠ ""

/-- The fields asked for. -/
def readSelect (v : Value) : Option (List String) :=
  match v.get? "select" with
  | some (.list (item :: items)) => some ((item :: items).map textOf)
  | _ => none

/-- A filter. -/
def readPredicate (v : Value) : RawPredicate where
  field := textOfMember v "field"
  op := match v.get? "op" with
    | none | some .null => "eq"
    | some op => textOf op
  value := (v.get? "value").getD .null

/-- A key of the order. -/
def readSortKey (v : Value) : RawSortKey where
  field := textOfMember v "field"
  direction := (v.get? "dir").bind Value.asString?

/-- The plan in an object. -/
def readPlan (v : Value) : RawPlan where
  resource := textOfMember v "resource"
  joins := (itemsOfMember v "joins").map readJoin
  select := readSelect v
  filters := ((itemsOfMember v "where").filter Value.isObject).map readPredicate
  sort := ((itemsOfMember v "sort").filter Value.isObject).map readSortKey
  limit := v.get? "limit"

/-- The plan in a value. -/
def RawPlan.ofValue : Value → Except NotAnObject RawPlan
  | .null => .error .null
  | .boolean _ => .error .boolean
  | .number _ => .error .number
  | .string _ => .error .string
  | .list _ => .error .list
  | .object members => .ok (readPlan (.object members))

/-! ## Replies -/

/-- What the planner replied. -/
inductive Reply where
  | query (plan : RawPlan)
  /-- No query applies; the planner says so in its own words. -/
  | message (text : String)
  | unclear

/-- Whether a value counts as given: not null, not false, not zero and not an empty text. -/
def isTruthy : Value → Bool
  | .null => false
  | .boolean b => b
  | .number n => !n.toBinary64.isZero
  | .string text => text ≠ ""
  | .list _ => true
  | .object _ => true

/-- Whether a value names a resource. -/
def hasResource (v : Value) : Bool := ((v.get? "resource").map isTruthy).getD false

/-- The message of a value, without white space at its ends, unless it is blank. -/
def messageOf (v : Value) : Option String :=
  (((v.get? "message").bind Value.asString?).map Text.trim).filter fun text => text ≠ ""

/-- Classifies a reply: only an object that names a resource is a query. -/
def Reply.ofValue (v : Value) : Reply :=
  if hasResource v then .query (readPlan v)
  else
    match messageOf v with
    | some text => .message text
    | none => .unclear

/-- Classifies the text of a reply: one that is no JSON is unclear. -/
def Reply.ofText (text : String) : Reply :=
  match Value.ofText text with
  | .ok v => .ofValue v
  | .error _ => .unclear

end QueryGate.Plan
