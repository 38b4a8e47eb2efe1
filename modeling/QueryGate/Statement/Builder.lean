import QueryGate.Json.Value
/-!
Statements under construction: the text so far and the parameters so far. Text enters in four ways only: fixed
words, quoted identifiers, whole numbers, and placeholders, whose values stay outside the text.
-/
set_option autoImplicit false

namespace QueryGate

/-- A statement with its parameters, in the order `$1`, `$2`, ... of their placeholders. -/
structure Statement where
  text : String
  parameters : List Json.Value

namespace Statement

/-- The statement without anything in it. -/
def empty : Statement := ⟨"", []⟩

/-- Appends text that is not taken from any input. -/
def fixed (text : String) (s : Statement) : Statement := ⟨s.text ++ text, s.parameters⟩

/-- The characters of an identifier in double quotes; a quote inside is written twice. -/
def quotedChars (name : String) : List Char :=
  '"' :: name.toList.flatMap (fun c => if c = '"' then ['"', '"'] else [c]) ++ ['"']

/-- Appends a quoted identifier. -/
def identifier (name : String) (s : Statement) : Statement :=
  ⟨s.text ++ String.ofList (quotedChars name), s.parameters⟩

/-- Appends a whole number. -/
def number (n : Nat) (s : Statement) : Statement := ⟨s.text ++ toString n, s.parameters⟩

/-- Appends a placeholder and records the value it stands for. -/
def parameter (value : Json.Value) (s : Statement) : Statement :=
  ⟨s.text ++ "$" ++ toString (s.parameters.length + 1), s.parameters ++ [value]⟩

end Statement

end QueryGate
