import QueryGate.Proofs.Statement.Piece
/-!
The lexemes of a text: quoted identifiers, placeholders, and single characters of everything else.

The reader takes one character after the other. A quote inside an identifier may close it or be the first half of a
doubled one, and a digit after a placeholder belongs to it, so what is read of a piece depends on the character that
follows it.
-/
set_option autoImplicit false

namespace QueryGate.Statement

/-! ## Reading characters -/

/-- A lexeme of a text. -/
inductive Lexeme where
  | quoted (name : List Char)
  | placeholder (n : Nat)
  | char (c : Char)
  /-- An identifier that is not closed where the text ends. -/
  | unclosed (name : List Char)
deriving DecidableEq, Repr

/-- What has been read of a lexeme that is not complete. -/
inductive Pending where
  | nothing
  | inside (name : List Char)
  /-- A quote was the last character: it closes the identifier unless another quote follows. -/
  | closing (name : List Char)
  | digits (ds : List Char)
deriving DecidableEq, Repr

/-- The lexeme of a placeholder with its digits; a dollar sign without digits is a character. -/
def placeholderOf : List Char → Lexeme
  | [] => .char '$'
  | d :: ds => .placeholder (Nat.ofDigitChars 10 (d :: ds) 0)

/-- Reads the first character of a lexeme. -/
def startChar (c : Char) : List Lexeme × Pending :=
  if c = '"' then ([], .inside [])
  else if c = '$' then ([], .digits [])
  else ([.char c], .nothing)

/-- Reads one character: the lexemes that it completes, and what is pending after it. -/
def readChar : Pending → Char → List Lexeme × Pending
  | .nothing, c => startChar c
  | .inside name, c => if c = '"' then ([], .closing name) else ([], .inside (name ++ [c]))
  | .closing name, c =>
    if c = '"' then ([], .inside (name ++ [c])) else (.quoted name :: (startChar c).1, (startChar c).2)
  | .digits ds, c =>
    if c.isDigit then ([], .digits (ds ++ [c])) else (placeholderOf ds :: (startChar c).1, (startChar c).2)

/-- What is pending where the text ends. -/
def atEnd : Pending → List Lexeme
  | .nothing => []
  | .inside name => [.unclosed name]
  | .closing name => [.quoted name]
  | .digits ds => [placeholderOf ds]

/-- The lexemes of the characters that follow what is pending. -/
def lexFrom (p : Pending) : List Char → List Lexeme
  | [] => atEnd p
  | c :: cs => (readChar p c).1 ++ lexFrom (readChar p c).2 cs

/-- The lexemes of a text. -/
def lex (cs : List Char) : List Lexeme := lexFrom .nothing cs

/-! ## Reading one piece -/

/-- Characters that begin no identifier and no placeholder stand for themselves. -/
theorem lex_plain {cs : List Char} (h : ∀ c ∈ cs, c ≠ '"' ∧ c ≠ '$') (rest : List Char) :
    lex (cs ++ rest) = cs.map .char ++ lex rest := by
  induction cs with
  | nil => rfl
  | cons c cs ih =>
      rw [List.forall_mem_cons] at h
      have hstart : readChar .nothing c = ([.char c], .nothing) := by
        rw [readChar, startChar, if_neg h.1.1, if_neg h.1.2]
      rw [List.cons_append, lex, lexFrom, hstart, ← lex, ih h.2]
      rfl

/-- A closed identifier is complete unless a quote follows. -/
theorem lexFrom_closing (name : List Char) {rest : List Char} (h : rest.head? ≠ some '"') :
    lexFrom (.closing name) rest = .quoted name :: lex rest := by
  cases rest with
  | nil => rfl
  | cons c cs =>
      have hc : c ≠ '"' := by simpa using h
      rw [lexFrom, readChar, if_neg hc]
      rfl

/-- The characters of an identifier with its quotes doubled are read back one by one. -/
theorem lexFrom_inside (name cs : List Char) (rest : List Char) :
    lexFrom (.inside name) (cs.flatMap (fun c => if c = '"' then ['"', '"'] else [c]) ++ rest) =
      lexFrom (.inside (name ++ cs)) rest := by
  induction cs generalizing name with
  | nil => simp
  | cons c cs ih =>
      rw [List.flatMap_cons, List.append_assoc]
      by_cases hc : c = '"'
      · -- the first quote may close the identifier, and the second one tells that it does not
        rw [if_pos hc, List.cons_append, lexFrom, readChar, if_pos rfl, List.singleton_append, lexFrom, readChar,
          if_pos rfl, ih, hc, List.append_assoc]
        rfl
      · rw [if_neg hc, List.singleton_append, lexFrom, readChar, if_neg hc, ih, List.append_assoc]
        rfl

/-- A quoted identifier is read as itself, whatever it contains, unless a quote follows. -/
theorem lex_quotedChars (name : String) {rest : List Char} (h : rest.head? ≠ some '"') :
    lex (quotedChars name ++ rest) = .quoted name.toList :: lex rest := by
  have hopen : readChar .nothing '"' = ([], .inside []) := rfl
  rw [quotedChars, List.append_assoc, List.cons_append, lex, lexFrom, hopen, lexFrom_inside, List.singleton_append,
    lexFrom, readChar, if_pos rfl, List.nil_append, lexFrom_closing _ h]
  rfl

/-- Digits belong to the placeholder before them. -/
theorem lexFrom_digits (ds es : List Char) (hes : ∀ c ∈ es, c.isDigit = true) (rest : List Char) :
    lexFrom (.digits ds) (es ++ rest) = lexFrom (.digits (ds ++ es)) rest := by
  induction es generalizing ds with
  | nil => simp
  | cons c es ih =>
      rw [List.forall_mem_cons] at hes
      rw [List.cons_append, lexFrom, readChar, if_pos hes.1, ih _ hes.2, List.append_assoc]
      rfl

/-- A placeholder is complete unless a digit follows. -/
theorem lexFrom_digits_end (ds : List Char) {rest : List Char} (h : ∀ c, rest.head? = some c → c.isDigit = false) :
    lexFrom (.digits ds) rest = placeholderOf ds :: lex rest := by
  cases rest with
  | nil => rfl
  | cons c cs =>
      have hc : c.isDigit = false := h c rfl
      rw [lexFrom, readChar, hc, if_neg Bool.false_ne_true]
      rfl

/-- The characters of a number are its digits. -/
theorem toList_toString_nat (n : Nat) : (toString n).toList = Nat.toDigits 10 n := Nat.toList_repr

theorem isDigit_of_mem_toString {n : Nat} {c : Char} (h : c ∈ (toString n).toList) : c.isDigit = true := by
  rw [toList_toString_nat] at h
  exact Nat.isDigit_of_mem_toDigits (by decide) (by decide) h

theorem isPlain_of_mem_toString {n : Nat} {c : Char} (h : c ∈ (toString n).toList) : c ≠ '"' ∧ c ≠ '$' := by
  have hdigit := isDigit_of_mem_toString h
  constructor
  · rintro rfl
    exact absurd hdigit (by decide)
  · rintro rfl
    exact absurd hdigit (by decide)

/-- The placeholder with the digits of a number is the placeholder of that number. -/
theorem placeholderOf_toString (n : Nat) : placeholderOf (toString n).toList = .placeholder n := by
  rw [toList_toString_nat]
  cases hdigits : Nat.toDigits 10 n with
  | nil => exact absurd hdigits Nat.toDigits_ne_nil
  | cons d ds => rw [placeholderOf, ← hdigits, Nat.ofDigitChars_ten_toDigits]

/-- A placeholder is read as itself unless a digit follows. -/
theorem lex_placeholder (n : Nat) {rest : List Char} (h : ∀ c, rest.head? = some c → c.isDigit = false) :
    lex ('$' :: (toString n).toList ++ rest) = .placeholder n :: lex rest := by
  have hopen : readChar .nothing '$' = ([], .digits []) := rfl
  rw [List.cons_append, lex, lexFrom, hopen, lexFrom_digits _ _ fun c hc => isDigit_of_mem_toString hc,
    List.nil_append, List.nil_append, lexFrom_digits_end _ h, placeholderOf_toString]

end QueryGate.Statement
