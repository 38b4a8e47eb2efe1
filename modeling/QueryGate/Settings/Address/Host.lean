import QueryGate.Settings.Address.Fault
import QueryGate.Settings.Address.Name
import QueryGate.Settings.Address.Numeric
import QueryGate.Text.Percent
/-!
The part of an address that names the user, the host and the port. How strict it is depends on the scheme: those of
the web take names and numbers only, that of files takes no user and no port, and all others take nearly anything for
a host.
-/
set_option autoImplicit false

namespace QueryGate.Settings.Address

/-- The kinds of schemes. -/
inductive Scheme where
  | web
  | files
  | other
deriving DecidableEq, Repr

/-- The schemes of the web. -/
def webSchemes : List (List Char) := ["http", "https", "ws", "wss", "ftp"].map String.toList

/-- The kind of a scheme. -/
def Scheme.ofName (name : List Char) : Scheme :=
  let name := name.map Char.toLower
  if name = "file".toList then .files else if webSchemes.contains name then .web else .other

/-- Whether a character ends the part with the host. -/
def Scheme.endsHost (s : Scheme) (c : Char) : Bool := c = '/' || c = '?' || c = '#' || (c = '\\' && s ≠ .other)

/-- What is wrong with a host in brackets, if anything is; `cs` comes after the opening one. -/
def checkBracketed (cs : List Char) : Except AddressFault Unit :=
  if cs.getLast? = some ']' ∧ isGrouped cs.dropLast then .ok () else .error .invalidBracketedHost

/-- What is wrong with a host of a scheme that takes nearly anything, if anything is. -/
def checkOpaque : List Char → Except AddressFault Unit
  | '[' :: rest => checkBracketed rest
  | host => if host.any isForbidden then .error .invalidCharacter else .ok ()

/-- What is wrong with a name, if anything is. Of one that ends in a number the standard form must be an address of
four parts. -/
def checkName (name : List Char) : Except AddressFault Unit :=
  match nameOf? name with
  | none => .error .invalidName
  | some [] => .error .emptyHost
  | some name =>
    if endsInNumber name ∧ ¬ isLenientDotted name then .error .invalidFourPartHost else .ok ()

/-- What is wrong with a host that is a name or a number, if anything is. -/
def checkNamed : List Char → Except AddressFault Unit
  | '[' :: rest => checkBracketed rest
  | host =>
    let bytes := Text.percentDecode host
    match Text.Utf8.check bytes with
    | .error _ => .error .invalidName
    | .ok _ => checkName (Text.Utf8.decode bytes)

/-- What is wrong with a host, if anything is. -/
def Scheme.checkHost (s : Scheme) (host : List Char) : Except AddressFault Unit :=
  if s = .other then checkOpaque host else if host = [] then .error .emptyHost else checkNamed host

/-- What is wrong with a port, if anything is. None at all is a port too, and a backslash ends one. -/
def checkPort (cs : List Char) : Except AddressFault Unit :=
  let digits := cs.takeWhile Char.isDigit
  match cs.dropWhile Char.isDigit with
  | [] => if numberOf 10 digits < 65536 then .ok () else .error .invalidPort
  | c :: _ => if c = '\\' ∧ numberOf 10 digits < 65536 then .ok () else .error .invalidPort

/-- Splits a host from a port. A colon within brackets belongs to the host. -/
def splitPort (bracketed : Bool) : List Char → List Char × Option (List Char)
  | [] => ([], none)
  | c :: cs =>
    if c = ':' ∧ bracketed = false then ([], some cs)
    else
      let (host, port) := splitPort (if c = '[' then true else if c = ']' then false else bracketed) cs
      (c :: host, port)

/-- The user, the host and the port of an address. -/
structure Authority where
  user : List Char
  password : List Char
  host : List Char
  port : Option (List Char)
deriving DecidableEq, Repr

namespace Authority

/-- No host at all. -/
def none : Authority := ⟨[], [], [], .none⟩

/-- The parts of an authority. A user ends before the last `@`, and its password begins after the first colon. -/
def ofText (cs : List Char) : Authority :=
  let hostPart := (cs.reverse.takeWhile fun c => c ≠ '@').reverse
  let userPart := cs.take (cs.length - hostPart.length - 1)
  let (user, password) := Text.splitFirst (· = ':') userPart
  let (host, port) := splitPort false hostPart
  ⟨user, password.getD [], host, port⟩

/-- What is wrong with the text of an authority in an address that goes on or does not, if anything is. -/
def checkText (s : Scheme) (goesOn : Bool) (cs : List Char) : Except AddressFault Unit := do
  let a := ofText cs
  if cs = ['@'] ∧ goesOn then .error .emptyHost
  else do
    s.checkHost a.host
    if a.host = [] ∧ a.port.isSome then .error .emptyHost
    else do
      checkPort (a.port.getD [])
      if a.host = [] ∧ (a.user ≠ [] ∨ a.password ≠ []) then .error .emptyHost else .ok ()

/-- Whether a text is the letter of a drive, which is no host. -/
def isDrive : List Char → Bool
  | [letter, mark] => letter.isAlpha && (mark = ':' || mark = '|')
  | _ => false

/-- What is wrong with the host of a file, if anything is. -/
def checkFileHost (host : List Char) : Except AddressFault Unit :=
  if host = [] ∨ isDrive host then .ok () else checkNamed host

/-- What is wrong with the bytes that a part stands for as a text, if anything is. -/
def checkBytes (cs : List Char) : Except AddressFault Unit :=
  (Text.Utf8.check (Text.percentDecode cs)).mapError .notText

/-- What is wrong with the parts of an authority as texts, if anything is. A host matters only if it is a path. -/
def checkTexts (a : Authority) : Except AddressFault Unit := do
  if (Text.percentDecode a.host).head? = some 0x2f then checkBytes a.host else .ok ()
  checkBytes a.user
  checkBytes a.password

end Authority

end QueryGate.Settings.Address
