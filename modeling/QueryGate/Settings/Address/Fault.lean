import QueryGate.Text.Utf8
import QueryGate.Text.Visible
/-!
Why the address of a database is unusable.
-/
set_option autoImplicit false

namespace QueryGate.Settings

/-- Why a text is no number. -/
inductive NumberFault where
  | empty
  | invalidDigit
  | tooLarge
deriving DecidableEq, Repr

/-- The wording of why a text is no number. -/
def NumberFault.message : NumberFault → String
  | empty => "cannot parse integer from empty string"
  | invalidDigit => "invalid digit found in string"
  | tooLarge => "number too large to fit in target type"

/-- Why an address is unusable. -/
inductive AddressFault where
  | noScheme
  | emptyHost
  | invalidFourPartHost
  | invalidBracketedHost
  /-- The name of the host has a character that no such name has. -/
  | invalidCharacter
  /-- The host is none of the names that these schemes take. -/
  | invalidName
  | invalidPort
  /-- What stands for bytes in a part of the address stands for no text. -/
  | notText (cause : Text.Utf8.Utf8Fault)
  | unknownEncryption (mode : String)
  /-- A number among the parameters is none. -/
  | invalidNumber (cause : NumberFault)
  /-- The numeric host among the parameters is none. -/
  | invalidNumericHost
deriving DecidableEq, Repr

/-- The wording of why an address is unusable. -/
def AddressFault.message : AddressFault → String
  | noScheme => "relative URL without a base"
  | emptyHost => "empty host"
  | invalidFourPartHost => "invalid IPv4 address"
  | invalidBracketedHost => "invalid IPv6 address"
  | invalidCharacter => "invalid domain character"
  | invalidName => "invalid international domain name"
  | invalidPort => "invalid port number"
  | notText cause => cause.message
  | unknownEncryption mode => "error with configuration: unknown value " ++ Text.visible mode ++ " for \x60ssl_mode\x60"
  | invalidNumber cause => cause.message
  | invalidNumericHost => "invalid IP address syntax"

end QueryGate.Settings
