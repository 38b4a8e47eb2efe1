import QueryGate.Json.Printer
import QueryGate.Json.Reader
import QueryGate.Proofs.Statement.Lexeme
/-!
Tokens that are written are read back: words, whole numbers and strings. A token is read wherever it stands, as long as
what follows a number does not go on with it. What matters of a cursor is the text that is left; its place is not said.
-/
set_option autoImplicit false

namespace QueryGate.Json

variable {c : Cursor} {rest : List Char} {x : Char}

/-! ## Cursors -/

theorem Cursor.rest_step (h : c.rest = x :: rest) : c.step.rest = rest := by simp [Cursor.step, h]

/-- Blanks are passed up to the first character that is none. -/
theorem Cursor.exists_skipBlanks {blanks : List Char} (hblanks : ∀ b ∈ blanks, Cursor.isBlank b = true)
    (hx : Cursor.isBlank x = false) (h : c.rest = blanks ++ x :: rest) :
    ∃ place, c.skipBlanks = ⟨x :: rest, place⟩ := by
  have hstop : ¬Cursor.isBlank x = true := by simp [hx]
  refine ⟨c.skipBlanks.place, ?_⟩
  rw [Cursor.skipBlanks, Cursor.skipWhile, h, List.dropWhile_append_of_pos hblanks, List.dropWhile_cons_of_neg hstop]

/-- A digit is no blank. -/
theorem Cursor.isBlank_of_isDigit (h : x.isDigit = true) : Cursor.isBlank x = false := by
  cases hblank : Cursor.isBlank x with
  | false => rfl
  | true =>
      simp only [Cursor.isBlank, Bool.or_eq_true, decide_eq_true_eq] at hblank
      rcases hblank with ((rfl | rfl) | rfl) | rfl <;> cases h

/-- Letters of a word that are there are read. -/
theorem Cursor.exists_word (letters : List Char) (h : c.rest = letters ++ rest) :
    ∃ next, Cursor.word letters c = .ok next ∧ next.rest = rest := by
  induction letters generalizing c with
  | nil => exact ⟨c, rfl, h⟩
  | cons w ws ih =>
      obtain ⟨next, hnext, hrest⟩ := ih (Cursor.rest_step h)
      refine ⟨next, ?_, hrest⟩
      rw [← hnext, Cursor.word, h]
      exact if_pos rfl

/-! ## Numbers -/

/-- What follows a whole number does not go on with it. -/
def IsNumberEnd (rest : List Char) : Prop :=
  ∀ x, rest.head? = some x → x.isDigit = false ∧ x ≠ '.' ∧ x ≠ 'e' ∧ x ≠ 'E'

namespace Literal

/-- Digits of a number below the bound are all taken. -/
theorem takeDigits_eq {digits : List Char} (n : Nat) (h : Nat.ofDigitChars 10 digits n < significandBound) :
    takeDigits n digits = (Nat.ofDigitChars 10 digits n, []) := by
  induction digits generalizing n with
  | nil => simp [takeDigits]
  | cons d ds ih =>
      have hmul : 10 * n + (d.toNat - '0'.toNat) = n * 10 + Number.digitValue d := by
        rw [Number.digitValue, Nat.mul_comm]
      rw [Nat.ofDigitChars_cons, hmul] at h ⊢
      -- further digits only make the number greater, so the bound holds all the way
      have hle : n * 10 + Number.digitValue d ≤ Nat.ofDigitChars 10 ds (n * 10 + Number.digitValue d) := by
        rw [Nat.ofDigitChars_eq_ofDigitChars_zero]
        exact Nat.le_trans (Nat.le_mul_of_pos_left _ (Nat.pow_pos (by decide))) (Nat.le_add_right _ _)
      rw [takeDigits]
      simp only [if_pos (Nat.lt_of_le_of_lt hle h)]
      exact ih _ h

/-- The digits of a whole number below the bound stand for that number. -/
theorem value_toDigits {n : Nat} (h : n < significandBound) (finish : Place) :
    (Literal.mk false (Nat.toDigits 10 n) none none).value finish = .ok (.natural n) := by
  have htake : takeDigits 0 (Nat.toDigits 10 n) = (n, []) := by
    rw [takeDigits_eq, Nat.ofDigitChars_ten_toDigits]
    rwa [Nat.ofDigitChars_ten_toDigits]
  simp [value, significand, htake, takeDigits]

end Literal

/-- A number that is at its end has no fraction and no exponent. -/
theorem Cursor.literalEnd_eq (negative : Bool) (whole : List Char) (h : IsNumberEnd c.rest) :
    c.literalEnd negative whole = .ok (⟨negative, whole, none, none⟩, c) := by
  obtain ⟨rest, place⟩ := c
  cases rest with
  | nil => rfl
  | cons x xs =>
      obtain ⟨-, hpoint, hsmall, hlarge⟩ := h x rfl
      unfold Cursor.literalEnd
      split
      · rename_i heq
        cases heq
        exact absurd rfl hpoint
      · simp only
        split
        · rename_i heq
          cases heq
          exact absurd rfl hsmall
        · rename_i heq
          cases heq
          exact absurd rfl hlarge
        · rfl

/-- The text of a whole number begins with a digit. -/
theorem exists_toDigits_eq_digit_cons (n : Nat) : ∃ d ds, Nat.toDigits 10 n = d :: ds ∧ d.isDigit = true := by
  obtain ⟨d, ds, hdigits⟩ := List.exists_cons_of_ne_nil (Nat.toDigits_ne_nil : Nat.toDigits 10 n ≠ [])
  exact ⟨d, ds, hdigits, Nat.isDigit_of_mem_toDigits (by decide) (by decide) (hdigits ▸ List.mem_cons_self)⟩

/-- The first digit of a whole number is a zero only if the number is zero. -/
theorem exists_toDigits_eq_cons {n : Nat} (h : n ≠ 0) : ∃ d ds, Nat.toDigits 10 n = d :: ds ∧ d ≠ '0' := by
  induction n using Nat.strongRecOn with
  | ind n ih =>
      rw [Nat.toDigits_eq_if (by decide)]
      by_cases hn : n < 10
      · rw [if_pos hn]
        exact ⟨_, [], rfl, by simpa using h⟩
      · obtain ⟨d, ds, hdigits, hd⟩ := ih (n / 10) (by omega) (by omega)
        rw [if_neg hn, hdigits]
        exact ⟨d, ds ++ [Nat.digitChar (n % 10)], rfl, hd⟩

/-- Digits are read up to the end of the number. -/
theorem Cursor.digits_append {ds : List Char} (h : c.rest = ds ++ rest) (hds : ∀ d ∈ ds, d.isDigit = true)
    (hend : IsNumberEnd rest) : c.digits.1 = ds ∧ c.digits.2.rest = rest := by
  rw [Cursor.digits, Cursor.skipWhile, h, List.takeWhile_append_of_pos hds, List.dropWhile_append_of_pos hds]
  cases rest with
  | nil => simp
  | cons x xs => simp [(hend x rfl).1]

/-- A whole number that is written is read as its digits. -/
theorem Cursor.exists_literal {n : Nat} (h : c.rest = Nat.toDigits 10 n ++ rest) (hend : IsNumberEnd rest) :
    ∃ next, c.literal false = .ok (⟨false, Nat.toDigits 10 n, none, none⟩, next) ∧ next.rest = rest := by
  have hdigits : ∀ d ∈ Nat.toDigits 10 n, d.isDigit = true :=
    fun d hd => Nat.isDigit_of_mem_toDigits (by decide) (by decide) hd
  by_cases hn : n = 0
  · subst hn
    rw [Nat.toDigits_zero] at h ⊢
    have hstep : c.step.rest = rest := Cursor.rest_step h
    have hliteral := Cursor.literalEnd_eq false ['0'] (hstep.symm ▸ hend)
    refine ⟨c.step, ?_, hstep⟩
    rw [← hliteral, Cursor.literal, h]
    cases rest with
    | nil => rfl
    | cons x xs =>
        -- a digit after a leading zero would be refused, and none can follow
        obtain ⟨hx, -⟩ := hend x rfl
        simp [hx]
  · obtain ⟨d, ds, hcons, hd⟩ := exists_toDigits_eq_cons hn
    obtain ⟨htake, hdrop⟩ := Cursor.digits_append h hdigits hend
    have hliteral := Cursor.literalEnd_eq false (Nat.toDigits 10 n) (hdrop.symm ▸ hend)
    refine ⟨c.digits.2, ?_, hdrop⟩
    rw [← hliteral, ← htake, Cursor.literal, h, hcons]
    have hdigit : d.isDigit = true := hdigits d (hcons ▸ List.mem_cons_self)
    -- the digit is not the zero that stands alone
    simp only [List.cons_append]
    exact if_pos hdigit

/-- A whole number that is written is read back. -/
theorem Cursor.exists_number {n : Nat} (hn : n < Literal.significandBound) (start : Place)
    (h : c.rest = Nat.toDigits 10 n ++ rest) (hend : IsNumberEnd rest) :
    ∃ finish next, c.number start false = (.number start (.ok (.natural n)) finish, some next)
      ∧ next.rest = rest := by
  obtain ⟨next, hliteral, hnext⟩ := Cursor.exists_literal h hend
  refine ⟨next.place, next, ?_, hnext⟩
  simp only [Cursor.number, hliteral, Literal.value_toDigits hn]

/-! ## Strings -/

/-- Four hexadecimal digits are read as one code unit. -/
theorem Cursor.exists_codeUnit {w x y z : Char} {i j k l : Nat} (h : c.rest = w :: x :: y :: z :: rest)
    (hw : Text.hexValue? w = some i) (hx : Text.hexValue? x = some j) (hy : Text.hexValue? y = some k)
    (hz : Text.hexValue? z = some l) :
    ∃ next, c.codeUnit = .ok (((i * 16 + j) * 16 + k) * 16 + l, next) ∧ next.rest = rest := by
  -- the reader asks for four bytes, of which each character has one at least
  have hbytes : hasBytes 4 (w :: x :: y :: z :: rest) = true := by
    have hwsize := w.utf8Size_pos
    have hxsize := x.utf8Size_pos
    have hysize := y.utf8Size_pos
    have hzsize := z.utf8Size_pos
    refine decide_eq_true ?_
    simp only [List.take_succ_cons, List.take_zero, List.foldl_cons, List.foldl_nil]
    omega
  refine ⟨⟨rest, ⟨c.place.line, c.place.column + 4⟩⟩, ?_, rfl⟩
  simp only [Cursor.codeUnit, h, hbytes, hw, hx, hy, hz, not_true_eq_false, if_false]

theorem hexValue?_hexDigit {n : Nat} (h : n < 16) : Text.hexValue? (hexDigit n) = some n := by
  decide +revert

/-- What is done with the next character of a string. -/
theorem Cursor.stringEnd_cons (fuel : Nat) (text : Except Fault (List Char)) (h : c.rest = x :: rest) :
    c.stringEnd (fuel + 1) text =
      if x = '"' then .ok (text.map fun cs => String.ofList cs.reverse, c.step)
      else if x = '\\' then
        match c.step.escape with
        | .error b => .error (Break.afterFault text b)
        | .ok e => e.next.stringEnd fuel (pushChar text e.value)
      else if x.toNat < 0x20 then
        .error (Break.afterFault text ⟨⟨.controlCharacter, c.step.place⟩, ⟨.controlCharacter, c.place⟩⟩)
      else c.step.stringEnd fuel (pushChar text (.ok x)) := by
  obtain ⟨cs, place⟩ := c
  cases h
  rfl

/-- An escape in a string is read as its character. -/
theorem Cursor.stringEnd_escape (fuel : Nat) (text : List Char) {next : Cursor} (h : c.rest = '\\' :: rest)
    (hescape : c.step.escape = .ok ⟨.ok x, next⟩) :
    c.stringEnd (fuel + 1) (.ok text) = next.stringEnd fuel (.ok (x :: text)) := by
  rw [Cursor.stringEnd_cons fuel _ h, if_neg (by decide), if_pos rfl, hescape]
  rfl

/-- A control that is written as its code is read back. -/
theorem Cursor.exists_escape_control (hx : x.toNat < 0x20)
    (h : c.rest = 'u' :: '0' :: '0' :: hexDigit (x.toNat / 16) :: hexDigit (x.toNat % 16) :: rest) :
    ∃ next, c.escape = .ok ⟨.ok x, next⟩ ∧ next.rest = rest := by
  have hzero : Text.hexValue? '0' = some 0 := rfl
  obtain ⟨next, hunit, hnext⟩ := Cursor.exists_codeUnit (Cursor.rest_step h) hzero hzero
    (hexValue?_hexDigit (by omega : x.toNat / 16 < 16)) (hexValue?_hexDigit (by omega : x.toNat % 16 < 16))
  refine ⟨next, ?_, hnext⟩
  -- two digits make a code below that of any surrogate
  have hcode : ((0 * 16 + 0) * 16 + x.toNat / 16) * 16 + x.toNat % 16 = x.toNat := by omega
  rw [hcode] at hunit
  have hlow : ¬(0xdc00 ≤ x.toNat ∧ x.toNat ≤ 0xdfff) := by omega
  have hhigh : x.toNat < 0xd800 ∨ 0xdbff < x.toNat := by omega
  simp only [Cursor.escape, h, Cursor.unicodeEscape, hunit, bind, Except.bind, if_neg hlow, if_pos hhigh,
    Char.ofNat_toNat]

/-- A character in a string, escaped if need be, is read back. -/
theorem Cursor.exists_stringEnd_escapeChar (fuel : Nat) (text : List Char) (h : c.rest = escapeChar x ++ rest) :
    ∃ next : Cursor, c.stringEnd (fuel + 1) (.ok text) = next.stringEnd fuel (.ok (x :: text))
      ∧ next.rest = rest := by
  -- a letter after a backslash stands for its character
  have hsimple {y : Char} (hy : y ≠ 'u') (hvalue : simpleEscape y = some x) (h : c.rest = '\\' :: y :: rest) :
      ∃ next : Cursor, c.stringEnd (fuel + 1) (.ok text) = next.stringEnd fuel (.ok (x :: text))
        ∧ next.rest = rest := by
    have hstep := Cursor.rest_step h
    refine ⟨c.step.step, Cursor.stringEnd_escape fuel text h ?_, Cursor.rest_step hstep⟩
    simp only [Cursor.escape, hstep, hvalue]
  -- the cases are those of the writer, in its order
  unfold escapeChar at h
  by_cases hquote : x = '"'
  · subst hquote
    exact hsimple (by decide) rfl h
  by_cases hbackslash : x = '\\'
  · subst hbackslash
    exact hsimple (by decide) rfl h
  by_cases hbackspace : x.toNat = 0x08
  · have hx : x = Char.ofNat 0x08 := by rw [← hbackspace, Char.ofNat_toNat]
    subst hx
    exact hsimple (by decide : 'b' ≠ 'u') rfl h
  by_cases hfeed : x.toNat = 0x0c
  · have hx : x = Char.ofNat 0x0c := by rw [← hfeed, Char.ofNat_toNat]
    subst hx
    exact hsimple (by decide : 'f' ≠ 'u') rfl h
  by_cases hline : x = '\n'
  · subst hline
    exact hsimple (by decide : 'n' ≠ 'u') rfl h
  by_cases hreturn : x = '\r'
  · subst hreturn
    exact hsimple (by decide : 'r' ≠ 'u') rfl h
  by_cases htab : x = '\t'
  · subst htab
    exact hsimple (by decide : 't' ≠ 'u') rfl h
  rw [if_neg hquote, if_neg hbackslash, if_neg hbackspace, if_neg hfeed, if_neg hline, if_neg hreturn, if_neg htab]
    at h
  by_cases hcontrol : x.toNat < 0x20
  · rw [if_pos hcontrol] at h
    obtain ⟨next, hescape, hnext⟩ := Cursor.exists_escape_control hcontrol (Cursor.rest_step h)
    exact ⟨next, Cursor.stringEnd_escape fuel text h hescape, hnext⟩
  · rw [if_neg hcontrol] at h
    refine ⟨c.step, ?_, Cursor.rest_step h⟩
    rw [Cursor.stringEnd_cons fuel _ h, if_neg hquote, if_neg hbackslash, if_neg hcontrol]
    rfl

/-- A string that is written is read back. -/
theorem Cursor.exists_stringEnd (fuel : Nat) (s text : List Char) (hfuel : s.length < fuel)
    (h : c.rest = s.flatMap escapeChar ++ '"' :: rest) :
    ∃ next : Cursor, c.stringEnd fuel (.ok text) = .ok (.ok (String.ofList (text.reverse ++ s)), next)
      ∧ next.rest = rest := by
  induction s generalizing c fuel text with
  | nil =>
      obtain ⟨fuel, rfl⟩ := Nat.exists_eq_succ_of_ne_zero (Nat.ne_of_gt hfuel)
      refine ⟨c.step, ?_, Cursor.rest_step h⟩
      rw [Cursor.stringEnd_cons fuel _ h, if_pos rfl, List.append_nil]
      rfl
  | cons x xs ih =>
      obtain ⟨fuel, rfl⟩ := Nat.exists_eq_succ_of_ne_zero (Nat.ne_of_gt (Nat.lt_of_le_of_lt (Nat.zero_le _) hfuel))
      rw [List.flatMap_cons, List.append_assoc] at h
      obtain ⟨next, hchar, hnext⟩ := Cursor.exists_stringEnd_escapeChar fuel text h
      obtain ⟨last, hlast, hrest⟩ := ih fuel (x :: text) (Nat.lt_of_succ_lt_succ hfuel) hnext
      refine ⟨last, ?_, hrest⟩
      rw [hchar, hlast, List.reverse_cons, List.append_assoc, List.singleton_append]

/-- The text of a string in quotes. -/
theorem toList_quote (s : String) : (quote s).toList = '"' :: s.toList.flatMap escapeChar ++ ['"'] := by
  rw [quote, String.toList_ofList]

/-- A string that is written is read back after its opening quote. -/
theorem Cursor.exists_string (s : String) (h : c.rest = s.toList.flatMap escapeChar ++ '"' :: rest) :
    ∃ next : Cursor, c.string = .ok (.ok s, next) ∧ next.rest = rest := by
  -- an escape is never shorter than its character, so the text that is left is fuel enough
  have hlength (cs : List Char) : cs.length ≤ (cs.flatMap escapeChar).length := by
    induction cs with
    | nil => exact Nat.le_refl _
    | cons x xs ih =>
        have hx : 1 ≤ (escapeChar x).length := by
          unfold escapeChar
          repeat' split
          all_goals simp
        rw [List.flatMap_cons, List.length_cons, List.length_append]
        omega
  have hfuel : s.toList.length < c.rest.length := by
    rw [h, List.length_append, List.length_cons]
    exact Nat.lt_of_le_of_lt (hlength s.toList) (by omega)
  obtain ⟨next, hnext, hrest⟩ := Cursor.exists_stringEnd c.rest.length s.toList [] hfuel h
  rw [List.reverse_nil, List.nil_append, String.ofList_toList] at hnext
  exact ⟨next, hnext, hrest⟩

end QueryGate.Json
