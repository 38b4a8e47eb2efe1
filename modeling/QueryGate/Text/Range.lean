/-!
Ranges of code points, each packed into one number: its first and its last code point in six hexadecimal digits each.
-/
set_option autoImplicit false

namespace QueryGate.Text

/-- Whether a code point lies in a packed range. -/
def inPackedRange (code range : Nat) : Bool :=
  decide (range / 0x1000000 ≤ code) && decide (code ≤ range % 0x1000000)

end QueryGate.Text
