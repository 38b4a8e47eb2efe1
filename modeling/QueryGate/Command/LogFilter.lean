import QueryGate.Number.Reading
import QueryGate.Pattern.Check
import QueryGate.Text.Alphanumeric
/-!
Log filters: directives with commas between them. A directive names a target, a span with a field, or both, and the
level from which on something is logged. Only whether a filter can be used is decided here.

White space around a directive is passed over when its parts are looked for, but not when they are cut out: they are
taken from the directive as it stands, at the distances that they would have from its beginning without that white
space.
-/
set_option autoImplicit false

namespace QueryGate.Command.LogFilter

open Pattern

/-- Why a log filter cannot be used. -/
inductive FilterFault where
  | invalidDirective
  | invalidLevel
  | invalidField (fault : PatternFault)
deriving DecidableEq, Repr

/-- The wording of why a log filter cannot be used. -/
def FilterFault.message : FilterFault → String
  | invalidDirective => "invalid filter directive"
  | invalidLevel =>
    "error parsing level filter: expected one of \"off\", \"error\", \"warn\", \"info\", \"debug\", \"trace\", "
      ++ "or a number 0-5"
  | invalidField fault => "invalid field filter: " ++ fault.message

/-- The words for levels. -/
def levelWords : List (List Char) := ["off", "error", "warn", "info", "debug", "trace"].map String.toList

/-- Whether a text is the number of a level: one digit up to five, with any zeros and a plus sign before it. -/
def isLevelNumber (cs : List Char) : Bool :=
  let digits := match cs with
    | '+' :: rest => rest
    | _ => cs
  match digits.dropWhile (· = '0') with
  | [] => !digits.isEmpty
  | [c] => decide ('1' ≤ c ∧ c ≤ '5')
  | _ => false

/-- What is wrong with a level, if anything is. No level at all is one. -/
def checkLevel (cs : List Char) : Except FilterFault Unit :=
  if cs = [] ∨ isLevelNumber cs ∨ cs.map Char.toLower ∈ levelWords then .ok () else .error .invalidLevel

/-- Whether a value is taken as it stands: a truth value or a number. Any other is a pattern. -/
def isPlainValue (value : List Char) : Bool :=
  let text := String.ofList value
  text = "true" || text = "false" || (Number.ofText? text).isSome

/-- What is wrong with a field, if anything is. Its value stands between its first two equals signs. -/
def checkField (field : List Char) : Except FilterFault Unit :=
  if field = [] then .error .invalidDirective
  else
    match field.dropWhile (· ≠ '=') with
    | [] => .ok ()
    | _ :: rest =>
      let value := rest.takeWhile (· ≠ '=')
      if isPlainValue value then .ok () else (Pattern.check value).mapError .invalidField

/-- A text without so many bytes at its beginning. -/
def dropBytes : Nat → List Char → List Char
  | _, [] => []
  | 0, cs => cs
  | n + 1, c :: cs => dropBytes (n + 1 - c.utf8Size) cs

/-- The beginning of a text with so many bytes. -/
def takeBytes : Nat → List Char → List Char
  | _, [] => []
  | 0, _ => []
  | n + 1, c :: cs => c :: takeBytes (n + 1 - c.utf8Size) cs

/-- The part of a directive that is being read. Parts that are cut out begin after so many bytes. -/
inductive Stage where
  | start
  | levelOrTarget
  | span
  | field (origin : Nat)
  | fieldsEnd
  | afterSpan
  | level (origin : Nat)
deriving DecidableEq, Repr

/-- Whether a target can begin with a character. -/
def beginsTarget (c : Char) : Bool := Text.isAlphanumeric c || c = '-' || c = ':' || c = '_'

/-- Reads one character of a directive, which stands after so many bytes. -/
def Stage.next (directive : List Char) (position : Nat) (c : Char) : Stage → Except FilterFault Stage
  | start =>
    if c = '[' then .ok .span else if beginsTarget c then .ok .levelOrTarget else .error .invalidDirective
  | levelOrTarget =>
    if c = '=' then .ok (.level (position + 1)) else if c = '[' then .ok .span else .ok .levelOrTarget
  | span => if c = ']' then .ok .afterSpan else if c = '\x7b' then .ok (.field (position + 1)) else .ok .span
  | field origin =>
    if c = '\x7d' then do
      checkField (takeBytes (position - origin) (dropBytes origin directive))
      .ok .fieldsEnd
    else .ok (.field origin)
  | fieldsEnd => if c = ']' then .ok .afterSpan else .error .invalidDirective
  | afterSpan => if c = '=' then .ok (.level (position + 1)) else .error .invalidDirective
  | level origin => .ok (.level origin)

/-- What is wrong at the end of a directive, if anything is. A word alone is a level or a target. -/
def Stage.finish (directive : List Char) : Stage → Except FilterFault Unit
  | level origin => checkLevel (dropBytes origin directive)
  | levelOrTarget => .ok ()
  | afterSpan => .ok ()
  | _ => .error .invalidDirective

/-- Reads characters of a directive, the first of which stands after so many bytes. -/
def Stage.run (directive : List Char) (position : Nat) (stage : Stage) : List Char → Except FilterFault Unit
  | [] => stage.finish directive
  | c :: rest => do
    let stage ← stage.next directive position c
    stage.run directive (position + c.utf8Size) rest

/-- What is wrong with a directive, if anything is. -/
def checkDirective (directive : List Char) : Except FilterFault Unit :=
  Stage.start.run directive 0 (Text.trimChars directive)

/-- What is wrong with a log filter, if anything is. Nothing between two commas is no directive. -/
def check (filter : String) : Except FilterFault Unit :=
  ((filter.splitOn ",").filter (· ≠ "")).forM fun directive => checkDirective directive.toList

end QueryGate.Command.LogFilter
