import QueryGate.Settings.Address.Fault
import QueryGate.Settings.Address.Numeric
import QueryGate.Text.Percent
/-!
The parameters of an address: names and values with an equals sign between them and `&` between two parameters.
-/
set_option autoImplicit false

namespace QueryGate.Settings.Address

/-- A parameter of an address. -/
structure Parameter where
  name : String
  value : List Char
deriving DecidableEq, Repr

namespace Parameter

/-- A name or a value as it is meant: a plus sign stands for a blank. -/
def meaning (cs : List Char) : List Char :=
  Text.Utf8.decode (Text.percentDecode (cs.map fun c => if c = '+' then ' ' else c))

/-- The parameter that a text gives. -/
def ofText (cs : List Char) : Parameter :=
  let (name, value) := Text.splitFirst (· = '=') cs
  ⟨String.ofList (meaning name), meaning (value.getD [])⟩

/-- The parameters that a text gives. -/
def listOf (cs : List Char) : List Parameter :=
  ((Text.splitAll (· = '&') cs).filter (· ≠ [])).map ofText

/-- Reads more digits of a number below a bound. -/
def readDigits (bound n : Nat) : List Char → Except NumberFault Nat
  | [] => .ok n
  | c :: cs =>
    if ¬ c.isDigit then .error .invalidDigit
    else
      let m := 10 * n + (c.toNat - '0'.toNat)
      if m < bound then readDigits bound m cs else .error .tooLarge

/-- A number below a bound; a plus sign may stand before it. -/
def readNumber (bound : Nat) : List Char → Except NumberFault Nat
  | [] => .error .empty
  | ['+'] => .error .invalidDigit
  | '+' :: digits => readDigits bound 0 digits
  | digits => readDigits bound 0 digits

/-- What is wrong with a number below a bound, if anything is. -/
def checkNumber (bound : Nat) (cs : List Char) : Except AddressFault Unit :=
  match readNumber bound cs with
  | .ok _ => .ok ()
  | .error cause => .error (.invalidNumber cause)

/-- The words for how a connection is encrypted. -/
def encryptionModes : List (List Char) :=
  ["disable", "allow", "prefer", "require", "verify-ca", "verify-full"].map String.toList

/-- What is wrong with a parameter, if anything is. Most can have any value. -/
def check (p : Parameter) : Except AddressFault Unit :=
  if p.name = "sslmode" ∨ p.name = "ssl-mode" then
    if encryptionModes.contains (p.value.map Char.toLower) then .ok ()
    else .error (.unknownEncryption (String.ofList p.value))
  else if p.name = "statement-cache-capacity" then checkNumber 18446744073709551616 p.value
  else if p.name = "hostaddr" then if isNumeric p.value then .ok () else .error .invalidNumericHost
  else if p.name = "port" then checkNumber 65536 p.value
  else .ok ()

end Parameter

end QueryGate.Settings.Address
