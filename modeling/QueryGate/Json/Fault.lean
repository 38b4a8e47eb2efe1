import QueryGate.Text.Visible
/-!
Places in a JSON text and the complaints that a reader makes about them. A complaint has a cause and a place; its
wording is one function of the two.
-/
set_option autoImplicit false

namespace QueryGate.Json

/-- How far a text has been read: the line, counted from one, and the bytes read on that line. -/
structure Place where
  line : Nat
  column : Nat
deriving DecidableEq, Repr

namespace Place

/-- The beginning of a text. -/
def start : Place := ⟨1, 0⟩

/-- The place after one more character. -/
def after (p : Place) (c : Char) : Place :=
  if c = '\n' then ⟨p.line + 1, 0⟩ else ⟨p.line, p.column + c.utf8Size⟩

/-- The place after the first byte of the text that follows; the same place at the end of the text. -/
def afterByte (p : Place) : List Char → Place
  | [] => p
  | c :: _ => if c = '\n' then ⟨p.line + 1, 0⟩ else ⟨p.line, p.column + 1⟩

end Place

/-- What a value turned out to be where something else was wanted. -/
inductive Found where
  | null
  | boolean (value : Bool)
  | integer (text : String)
  | floating (text : String)
  | string (text : String)
  | list
  | object
deriving DecidableEq, Repr

/-- How a value that was not wanted is named. -/
def Found.describe : Found → String
  | .null => "null"
  | .boolean b => "boolean `" ++ toString b ++ "`"
  | .integer text => "integer `" ++ text ++ "`"
  | .floating text => "floating point `" ++ text ++ "`"
  | .string text => "string " ++ Text.visible text
  | .list => "sequence"
  | .object => "map"

/-- Why a text is not JSON, or not JSON of the wanted shape. -/
inductive Cause where
  | unfinishedValue
  | unfinishedObject
  | unfinishedList
  | unfinishedString
  | expectedValue
  | expectedWord
  | expectedColon
  | expectedCommaOrBrace
  | expectedCommaOrBracket
  | expectedKey
  | trailingComma
  | trailingCharacters
  | invalidNumber
  | numberOutOfRange
  | invalidEscape
  | unfinishedSurrogatePair
  | loneSurrogate
  | controlCharacter
  | tooDeep
  | wrongType (found : Found) (wanted : String)
  | outOfRange (value : Int) (wanted : String)
  | missingField (name : String)
  | repeatedField (name : String)
  | unknownVariant (name : String) (known : String)
  | wrongLength (length : Nat) (wanted : String)
  | noVariant (name : String)
deriving DecidableEq, Repr

/-- The wording of a cause. -/
def Cause.describe : Cause → String
  | .unfinishedValue => "EOF while parsing a value"
  | .unfinishedObject => "EOF while parsing an object"
  | .unfinishedList => "EOF while parsing a list"
  | .unfinishedString => "EOF while parsing a string"
  | .expectedValue => "expected value"
  | .expectedWord => "expected ident"
  | .expectedColon => "expected `:`"
  | .expectedCommaOrBrace => "expected `,` or `\x7d`"
  | .expectedCommaOrBracket => "expected `,` or `]`"
  | .expectedKey => "key must be a string"
  | .trailingComma => "trailing comma"
  | .trailingCharacters => "trailing characters"
  | .invalidNumber => "invalid number"
  | .numberOutOfRange => "number out of range"
  | .invalidEscape => "invalid escape"
  | .unfinishedSurrogatePair => "unexpected end of hex escape"
  | .loneSurrogate => "lone leading surrogate in hex escape"
  | .controlCharacter => "control character (\\u0000-\\u001F) found while parsing a string"
  | .tooDeep => "recursion limit exceeded"
  | .wrongType found wanted => "invalid type: " ++ found.describe ++ ", expected " ++ wanted
  | .outOfRange value wanted => "invalid value: integer `" ++ toString value ++ "`, expected " ++ wanted
  | .missingField name => "missing field `" ++ name ++ "`"
  | .repeatedField name => "duplicate field `" ++ name ++ "`"
  | .unknownVariant name known => "unknown variant `" ++ name ++ "`, expected " ++ known
  | .wrongLength length wanted => "invalid length " ++ toString length ++ ", expected " ++ wanted
  | .noVariant name => "data did not match any variant of untagged enum " ++ name

/-- A complaint about a text. -/
structure Fault where
  cause : Cause
  place : Place
deriving DecidableEq, Repr

/-- The wording of a complaint. -/
def Fault.message (f : Fault) : String :=
  f.cause.describe ++ " at line " ++ toString f.place.line ++ " column " ++ toString f.place.column

end QueryGate.Json
