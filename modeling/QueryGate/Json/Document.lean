import QueryGate.Json.Fault
import QueryGate.Json.Value
/-!
A JSON text as far as it makes sense. `Document` is the tree of a text in which every node knows its place and the
point where the text stops being JSON is a leaf of its own, so that one who walks the tree in order meets the first
complaint first, whether it is about the notation or about the shape. Two readers are served: one who wants the
value, and one who only skips over it and minds less.
-/
set_option autoImplicit false

namespace QueryGate.Json

/-- The point where a text stops making sense, as it appears to one who reads the value and to one who skips it. -/
structure Break where
  read : Fault
  skip : Fault
deriving DecidableEq, Repr

/-- The same complaint for both readers. -/
def Break.same (cause : Cause) (place : Place) : Break := ⟨⟨cause, place⟩, ⟨cause, place⟩⟩

/-- Two complaints about one place. -/
def Break.differing (read skip : Cause) (place : Place) : Break := ⟨⟨read, place⟩, ⟨skip, place⟩⟩

mutual

/-- A value in a text. `start` is the place before its first character, `finish` the one after its last. A number
or a string may be well formed for one who skips it and still have no value. -/
inductive Document where
  | null (start finish : Place)
  | boolean (start : Place) (value : Bool) (finish : Place)
  | number (start : Place) (value : Except Fault Numeral) (finish : Place)
  | string (start : Place) (value : Except Fault String) (finish : Place)
  | list (start : Place) (items : Items)
  | object (start : Place) (members : Members)
  | broken (start : Place) (fault : Break)

/-- What follows an opening bracket. `settled` is the place that is reached from the end of an item by passing
blanks and then the closing bracket, or a comma and more blanks, if one is there. -/
inductive Items where
  | stop (fault : Break)
  | close (finish : Place)
  | item (value : Document) (settled : Place) (rest : Items)

/-- What follows an opening brace. `keyFinish` is the place after a key; `keySettled` and `settled` are the places
that are reached from the end of the key and of the value by passing blanks and then the closing brace, if it is
there. -/
inductive Members where
  | stop (fault : Break)
  | close (finish : Place)
  | member (key : Except Fault String) (keyFinish keySettled : Place) (value : Document) (settled : Place)
    (rest : Members)

end

/-- The place before the first character of a value. -/
def Document.start : Document → Place
  | .null start _ => start
  | .boolean start _ _ => start
  | .number start _ _ => start
  | .string start _ _ => start
  | .list start _ => start
  | .object start _ => start
  | .broken start _ => start

end QueryGate.Json
