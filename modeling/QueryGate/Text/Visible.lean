import QueryGate.Text.Invisible
/-!
Text in double quotes with every character visible: quotes and backslashes are escaped, the common controls have
short escapes, and other invisible characters are written as their code point in braces.
-/
set_option autoImplicit false

namespace QueryGate.Text

/-- A number in lower-case hexadecimal digits. -/
def hexDigits (n : Nat) : List Char := Nat.toDigits 16 n

/-- The visible form of one character. -/
def visibleChar (c : Char) : List Char :=
  if c = '"' ∨ c = '\\' then ['\\', c]
  else if c = '\n' then ['\\', 'n']
  else if c = '\r' then ['\\', 'r']
  else if c = '\t' then ['\\', 't']
  else if c.toNat = 0 then ['\\', '0']
  else if isInvisible c then '\\' :: 'u' :: '{' :: hexDigits c.toNat ++ ['}']
  else [c]

/-- The text in double quotes with every character visible. -/
def visible (s : String) : String :=
  String.ofList ('"' :: s.toList.flatMap visibleChar ++ ['"'])

end QueryGate.Text
