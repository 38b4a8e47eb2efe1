import QueryGate.Settings.Address.Host
import QueryGate.Settings.Address.Parameter
/-!
Addresses of databases: a scheme, after two slashes a user, a host and a port, then a path and parameters. Only what can
make an address unusable is looked at.
-/
set_option autoImplicit false

namespace QueryGate.Settings.Address

/-- An address without the blanks around it and the line breaks in it, which do not count. -/
def plain (address : String) : List Char :=
  let isOuter := fun c : Char => c ≤ ' '
  let cs := ((address.toList.dropWhile isOuter).reverse.dropWhile isOuter).reverse
  cs.filter fun c => c ≠ '\t' ∧ c ≠ '\n' ∧ c ≠ '\r'

/-- The scheme, and what follows it: letters, digits, `+`, `-` and `.` up to a colon, a letter first. -/
def splitScheme? (cs : List Char) : Option (Scheme × List Char) :=
  let name := cs.takeWhile fun c => c.isAlphanum || c = '+' || c = '-' || c = '.'
  match name, cs.drop name.length with
  | c :: _, ':' :: rest => if c.isAlpha then some (.ofName name, rest) else none
  | _, _ => none

/-- Whether a slash leads to the host of a file; so does a backslash. -/
def isSlash (c : Char) : Bool := c = '/' || c = '\\'

/-- The part of an address with its host, and what follows it, if it has one. Schemes of the web have one with any
number of slashes before it. -/
def splitAuthority (s : Scheme) (cs : List Char) : Option (List Char × List Char) :=
  let split := fun rest : List Char => (rest.takeWhile fun c => !s.endsHost c, rest.dropWhile fun c => !s.endsHost c)
  match s, cs with
  | .web, _ => some (split (cs.dropWhile isSlash))
  | .files, first :: second :: rest => if isSlash first && isSlash second then some (split rest) else none
  | .other, '/' :: '/' :: rest => some (split rest)
  | _, _ => none

/-- What is wrong with the part with the host, if anything is. -/
def checkAuthority (s : Scheme) (authority rest : List Char) : Except AddressFault Unit :=
  match s with
  | .files => Authority.checkFileHost authority
  | _ => do
    Authority.checkText s (!rest.isEmpty) authority
    (Authority.ofText authority).checkTexts

/-- The parameters of an address; `rest` comes after its host. -/
def parameters (rest : List Char) : List Parameter :=
  let (_, query) := Text.splitFirst (· = '?') (rest.takeWhile fun c => c ≠ '#')
  Parameter.listOf (query.getD [])

/-- What is wrong with an address, if anything is. -/
def check (address : String) : Except AddressFault Unit := do
  match splitScheme? (plain address) with
  | none => .error .noScheme
  | some (s, rest) =>
    match splitAuthority s rest with
    | some (authority, more) => do
      checkAuthority s authority more
      (parameters more).forM Parameter.check
    | none => (parameters rest).forM Parameter.check

end QueryGate.Settings.Address
