/-!
Environments: where the values of variables are looked up.
-/
set_option autoImplicit false

namespace QueryGate.Settings

/-- Why a variable has no value. -/
inductive VariableFault where
  | notSet (name : String)
  /-- The bytes of the value are no text. -/
  | notText (name : String)
deriving DecidableEq, Repr

/-- The wording of why a variable has no value. -/
def VariableFault.message : VariableFault → String
  | notSet name => "the variable " ++ name ++ " is not set"
  | notText name => "the value of the variable " ++ name ++ " is not valid unicode"

/-- An environment gives a variable its value, or says why there is none. -/
structure Environment where
  read : String → Except VariableFault String

namespace Environment

/-- The environment without variables. -/
def empty : Environment := ⟨fun name => .error (.notSet name)⟩

/-- The last value that is set for a name. -/
def lastValue? {α : Type} (name : String) (assignments : List (String × α)) : Option α :=
  assignments.reverse.lookup name

/-- The environment in which these variables are set, one after the other. -/
def ofList (assignments : List (String × String)) : Environment where
  read name :=
    match lastValue? name assignments with
    | some value => .ok value
    | none => .error (.notSet name)

/-- The environment of a process, whose values are bytes. -/
def ofBytes (assignments : List (String × ByteArray)) : Environment where
  read name :=
    match lastValue? name assignments with
    | some bytes =>
      match String.fromUTF8? bytes with
      | some value => .ok value
      | none => .error (.notText name)
    | none => .error (.notSet name)

end Environment

end QueryGate.Settings
