/-!
White space in the sense of the Unicode property White_Space, and texts without it at their ends.
-/
set_option autoImplicit false

namespace QueryGate.Text

/-- Whether a character is white space. -/
def isBlank (c : Char) : Bool :=
  let n := c.toNat
  (0x09 ≤ n && n ≤ 0x0d) || n = 0x20 || n = 0x85 || n = 0xa0 || n = 0x1680 || (0x2000 ≤ n && n ≤ 0x200a)
    || n = 0x2028 || n = 0x2029 || n = 0x202f || n = 0x205f || n = 0x3000

/-- The characters without the white space at their ends. -/
def trimChars (cs : List Char) : List Char :=
  ((cs.dropWhile isBlank).reverse.dropWhile isBlank).reverse

/-- What is taken away at the ends is white space. -/
theorem exists_append_trimChars (cs : List Char) :
    ∃ front back, cs = front ++ trimChars cs ++ back ∧ (∀ c ∈ front, isBlank c = true)
      ∧ ∀ c ∈ back, isBlank c = true := by
  have hfront := List.takeWhile_append_dropWhile (p := isBlank) (l := cs)
  have hback := List.takeWhile_append_dropWhile (p := isBlank) (l := (cs.dropWhile isBlank).reverse)
  refine ⟨cs.takeWhile isBlank, ((cs.dropWhile isBlank).reverse.takeWhile isBlank).reverse, ?_, ?_, ?_⟩
  · rw [List.append_assoc, trimChars, ← List.reverse_append, hback, List.reverse_reverse, hfront]
  · intro c hc
    exact List.all_eq_true.1 List.all_takeWhile c hc
  · intro c hc
    exact List.all_eq_true.1 List.all_takeWhile c (List.mem_reverse.1 hc)

/-- White space on either side of characters that are none is taken away. -/
theorem trimChars_append {front body back : List Char} (hfront : ∀ c ∈ front, isBlank c = true)
    (hbody : ∀ c ∈ body, isBlank c = false) (hback : ∀ c ∈ back, isBlank c = true) :
    trimChars (front ++ body ++ back) = body := by
  rw [trimChars, List.append_assoc, List.dropWhile_append_of_pos hfront]
  cases body with
  | nil =>
      have hnone : back.dropWhile isBlank = [] := by
        rw [← List.append_nil back, List.dropWhile_append_of_pos hback, List.dropWhile_nil]
      rw [List.nil_append, hnone]
      rfl
  | cons first rest =>
      have hfirst : ¬isBlank first = true := by simp [hbody first List.mem_cons_self]
      have hback' : ∀ c ∈ back.reverse, isBlank c = true := fun c hc => hback c (List.mem_reverse.1 hc)
      rw [List.cons_append, List.dropWhile_cons_of_neg hfirst, ← List.cons_append, List.reverse_append,
        List.dropWhile_append_of_pos hback']
      -- the other end is one of the characters between the white space too
      cases hreverse : (first :: rest).reverse with
      | nil => simp at hreverse
      | cons last others =>
          have hmem : last ∈ first :: rest := List.mem_reverse.1 (hreverse ▸ List.mem_cons_self)
          have hlast : ¬isBlank last = true := by simp [hbody last hmem]
          rw [List.dropWhile_cons_of_neg hlast, ← hreverse, List.reverse_reverse]

/-- The text without the white space at its ends. -/
def trim (s : String) : String := String.ofList (trimChars s.toList)

/-- Whether a text holds nothing but white space. -/
def isBlankText (s : String) : Bool := s.toList.all isBlank

end QueryGate.Text
