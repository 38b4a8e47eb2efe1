import Mathlib.Data.List.Chain
import QueryGate.Text.Normal
/-!
What normalisation leaves as it is, and what can come out of it.

A character is composed if it decomposes to a start and marks that compose to it again, one after the other, and if the
start composes with nothing that stands before it. A text of composed characters is its own normal form: the marks are in
order already, and each character is put together again before the next one starts.

Whatever comes out of normalisation has been decomposed or composed; so what holds of all decompositions, and of
composites of what it holds of, holds of every normal form.
-/
set_option autoImplicit false

namespace QueryGate.Text

/-! ## The order of marks -/

/-- Marks are in order if no mark stands behind one of a greater class. -/
def IsOrdered (cs : List Char) : Prop :=
  cs.IsChain fun c d => combiningClass d = 0 ∨ combiningClass c ≤ combiningClass d

theorem insertMark_of_isOrdered {c : Char} {cs : List Char} (h : IsOrdered (c :: cs)) : insertMark c cs = c :: cs := by
  cases cs with
  | nil => rfl
  | cons d ds =>
      have hstep : combiningClass d = 0 ∨ combiningClass c ≤ combiningClass d := (List.isChain_cons_cons.1 h).1
      rw [insertMark, if_neg]
      omega

/-- Marks that are in order stay where they are. -/
theorem orderMarks_of_isOrdered {cs : List Char} (h : IsOrdered cs) : orderMarks cs = cs := by
  induction cs with
  | nil => rfl
  | cons c cs ih => rw [orderMarks, ih h.tail, insertMark_of_isOrdered h]

theorem mem_insertMark {c d : Char} {cs : List Char} (h : d ∈ insertMark c cs) : d = c ∨ d ∈ cs := by
  induction cs with
  | nil => exact .inl (List.mem_singleton.1 h)
  | cons e es ih =>
      rw [insertMark] at h
      split at h
      · rcases List.mem_cons.1 h with rfl | h
        · exact .inr List.mem_cons_self
        · exact (ih h).imp_right (List.mem_cons_of_mem e)
      · exact List.mem_cons.1 h

/-- Putting marks into order brings in no other characters. -/
theorem mem_of_mem_orderMarks {d : Char} {cs : List Char} (h : d ∈ orderMarks cs) : d ∈ cs := by
  induction cs with
  | nil => exact h
  | cons c cs ih =>
      rcases mem_insertMark h with rfl | h
      · exact List.mem_cons_self
      · exact List.mem_cons_of_mem c (ih h)

/-! ## Composing -/

/-- Marks that compose with a start one after the other are gone, and the composite is the start of what follows. -/
theorem composeFrom_foldlM {start c : Char} {marks : List Char} (h : marks.foldlM compose? start = some c)
    (rest : List Char) : composeFrom start [] (marks ++ rest) = composeFrom c [] rest := by
  induction marks generalizing start with
  | nil =>
      obtain rfl : start = c := Option.some.inj h
      rfl
  | cons m ms ih =>
      rw [List.foldlM_cons] at h
      obtain ⟨composite, hcomposite, hrest⟩ := Option.bind_eq_some_iff.1 h
      rw [List.cons_append, composeFrom]
      simp only [if_pos, hcomposite]
      exact ih hrest

/-- A start that composes with nothing before it begins anew. -/
theorem composeFrom_start {c start : Char} (hstarts : combiningClass start = 0) (halone : compose? c start = none)
    (rest : List Char) : composeFrom c [] (start :: rest) = c :: composeFrom start [] rest := by
  rw [composeFrom]
  simp only [if_pos, halone, hstarts]
  rfl

section Closed

variable {P : Char → Prop} (hcompose : ∀ first second composite, P first → compose? first second = some composite →
  P composite)

include hcompose

/-- What holds of some characters, and of composites of what it holds of, holds of all that they compose to. -/
theorem forall_mem_composeFrom {start : Char} {held cs : List Char} (hstart : P start) (hheld : ∀ c ∈ held, P c)
    (hcs : ∀ c ∈ cs, P c) : ∀ c ∈ composeFrom start held cs, P c := by
  induction cs generalizing start held with
  | nil =>
      intro c hc
      rcases List.mem_cons.1 hc with rfl | hc
      · exact hstart
      · exact hheld c (List.mem_reverse.1 hc)
  | cons d ds ih =>
      obtain ⟨hd, hds⟩ := List.forall_mem_cons.1 hcs
      -- the next character composes with the start, or is a start itself, or is held back until one comes
      rw [composeFrom.eq_def]
      dsimp only
      split
      · rename_i composite hcomposite
        rw [Option.ite_none_right_eq_some] at hcomposite
        exact ih (hcompose start d composite hstart hcomposite.2) hheld hds
      · split
        · intro c hc
          rw [List.cons_append, List.mem_cons, List.mem_append, List.mem_reverse] at hc
          rcases hc with rfl | hc | hc
          · exact hstart
          · exact hheld c hc
          · exact ih hd (fun _ h => absurd h List.not_mem_nil) hds c hc
        · exact ih hstart (List.forall_mem_cons.2 ⟨hd, hheld⟩) hds

theorem forall_mem_composeAll {cs : List Char} (hcs : ∀ c ∈ cs, P c) : ∀ c ∈ composeAll cs, P c := by
  induction cs with
  | nil => exact hcs
  | cons d ds ih =>
      obtain ⟨hd, hds⟩ := List.forall_mem_cons.1 hcs
      rw [composeAll]
      split
      · exact forall_mem_composeFrom hcompose hd (fun _ h => absurd h List.not_mem_nil) hds
      · exact List.forall_mem_cons.2 ⟨hd, ih hds⟩

/-- What holds of all decompositions, and of composites of what it holds of, holds of every normal form. -/
theorem forall_mem_normalFormKC (hdecompose : ∀ c, ∀ d ∈ decompose c, P d) (cs : List Char) :
    ∀ c ∈ normalFormKC cs, P c := by
  refine forall_mem_composeAll hcompose fun c hc => ?_
  obtain ⟨d, -, hd⟩ := List.mem_flatMap.1 (mem_of_mem_orderMarks hc)
  exact hdecompose d c hd

end Closed

/-! ## Composed characters -/

/-- A start and marks are what a composed character consists of. -/
structure ComposesTo (start : Char) (marks : List Char) (c : Char) : Prop where
  decompose_eq : decompose c = start :: marks
  starts : combiningClass start = 0
  alone : ∀ before, compose? before start = none
  ordered : marks.IsChain fun m n => combiningClass m ≤ combiningClass n
  composes : marks.foldlM compose? start = some c

/-- A composed character. -/
def IsComposed (c : Char) : Prop := ∃ start marks, ComposesTo start marks c

section Composed

variable {cs : List Char} (h : ∀ c ∈ cs, IsComposed c)

include h

/-- The marks of composed characters are in order. -/
theorem isOrdered_flatMap_decompose : IsOrdered (cs.flatMap decompose) := by
  induction cs with
  | nil => exact List.isChain_nil
  | cons c rest ih =>
      rw [List.forall_mem_cons] at h
      obtain ⟨⟨start, marks, hc⟩, hrest⟩ := h
      rw [List.flatMap_cons, hc.decompose_eq]
      refine List.isChain_append.2 ⟨List.isChain_cons.2 ⟨fun m _ => .inr ?_, ?_⟩, ih hrest, ?_⟩
      · rw [hc.starts]
        exact Nat.zero_le _
      · exact hc.ordered.imp fun _ _ h => .inr h
      · -- the next character begins with a start, which may follow any mark
        intro m _ d hd
        cases rest with
        | nil => cases hd
        | cons e es =>
            obtain ⟨start, marks, he⟩ := hrest e List.mem_cons_self
            rw [List.flatMap_cons, he.decompose_eq, List.cons_append, List.head?_cons, Option.mem_some_iff] at hd
            exact .inl (hd ▸ he.starts)

/-- Behind a start composed characters are put together again one by one. -/
theorem composeFrom_flatMap_decompose (c : Char) : composeFrom c [] (cs.flatMap decompose) = c :: cs := by
  induction cs generalizing c with
  | nil => rfl
  | cons d rest ih =>
      rw [List.forall_mem_cons] at h
      obtain ⟨⟨start, marks, hd⟩, hrest⟩ := h
      rw [List.flatMap_cons, hd.decompose_eq, List.cons_append, composeFrom_start hd.starts (hd.alone c),
        composeFrom_foldlM hd.composes, ih hrest]

/-- A text of composed characters is its own normal form. -/
theorem normalFormKC_of_isComposed : normalFormKC cs = cs := by
  rw [normalFormKC, orderMarks_of_isOrdered (isOrdered_flatMap_decompose h)]
  cases cs with
  | nil => rfl
  | cons c rest =>
      rw [List.forall_mem_cons] at h
      obtain ⟨⟨start, marks, hc⟩, hrest⟩ := h
      rw [List.flatMap_cons, hc.decompose_eq, List.cons_append, composeAll, if_pos hc.starts,
        composeFrom_foldlM hc.composes, composeFrom_flatMap_decompose hrest]

end Composed

end QueryGate.Text
