import QueryGate.Text.LowerCase
/-!
Lower case of lower case. The table of lower case is a list of runs, and no run covers a letter to which another run
leads; so a letter that is in lower case stays as it is.
-/
set_option autoImplicit false

namespace QueryGate.Text

/-- A number is the code point of the character that it stands for, or else it stands for the first character. -/
theorem toNat_ofNat_cases (code : Nat) : (Char.ofNat code).toNat = code ∨ Char.ofNat code = Char.ofNat 0 := by
  by_cases hvalid : code.isValidChar
  · rw [Char.ofNat, dif_pos hvalid]
    exact .inl rfl
  · rw [Char.ofNat, dif_neg hvalid]
    exact .inr rfl

namespace CaseRun

/-- A code point is one of those of which a run tells the lower case. -/
def Covers (r : CaseRun) (code : Nat) : Prop := r.first ≤ code ∧ code ≤ r.last ∧ (code - r.first) % r.step = 0

/-- The code point of the lower case of a letter in a run. -/
def target (r : CaseRun) (code : Nat) : Nat := ((code : Int) + r.shift).toNat

/-- Whether a run leads to no letter that another run covers: its targets lie before or behind the other run, or all of
them between the letters of one that covers every other code point. -/
def avoids (r other : CaseRun) : Bool :=
  Nat.blt (r.target r.last) other.first || Nat.blt other.last (r.target r.first)
    || (Nat.beq other.step 2 && (Nat.beq r.step 2 || Nat.beq r.first r.last) && Nat.blt 0 (r.target r.first)
      && Nat.beq ((r.target r.first + other.first) % 2) 1)

theorem not_covers_target {r other : CaseRun} (h : r.avoids other = true) {code : Nat} (hcode : r.Covers code) :
    ¬other.Covers (r.target code) := by
  rintro ⟨hfirst, hlast, hstep⟩
  obtain ⟨hfirst', hlast', hstep'⟩ := hcode
  simp only [avoids, Bool.or_eq_true, Bool.and_eq_true, Nat.blt_eq, Nat.beq_eq, target] at h
  rw [target] at hfirst hlast hstep
  rcases h with (h | h) | ⟨⟨⟨htwo, hrun⟩, hpos⟩, hodd⟩
  · omega
  · omega
  · -- the letters of the other run have one parity and the targets have the other
    rw [htwo] at hstep
    rcases hrun with htwo' | hone
    · rw [htwo'] at hstep'
      omega
    · omega

end CaseRun

/-- The runs lead neither to letters that they cover nor to the capital I with a dot. -/
theorem all_caseRuns_avoids :
    (caseRuns.all fun r => (CaseRun.mk 0x130 0x130 1 0 :: caseRuns).all r.avoids) = true := by
  decide +kernel

/-- The lower case of a character: two characters for the capital I with a dot, the target of a run that covers it, or
the character itself if no run does. -/
theorem lowerChar_cases (c : Char) :
    (c.toNat = 0x130 ∧ lowerChar c = ['i', Char.ofNat 0x307])
      ∨ (∃ r ∈ caseRuns, r.Covers c.toNat ∧ lowerChar c = [Char.ofNat (r.target c.toNat)])
      ∨ (c.toNat ≠ 0x130 ∧ (∀ r ∈ caseRuns, ¬r.Covers c.toNat) ∧ lowerChar c = [c]) := by
  have hcovers (r : CaseRun) : (decide (r.first ≤ c.toNat) && decide (c.toNat ≤ r.last)
      && decide ((c.toNat - r.first) % r.step = 0)) = true ↔ r.Covers c.toNat := by
    simp [CaseRun.Covers, and_assoc]
  unfold lowerChar
  by_cases hdot : c.toNat = 0x130
  · exact .inl ⟨hdot, if_pos hdot⟩
  · refine .inr ?_
    simp only [if_neg hdot]
    split
    · rename_i r hfound
      have hcode := List.find?_some hfound
      exact .inl ⟨r, List.mem_of_find?_eq_some hfound, (hcovers r).1 hcode, rfl⟩
    · rename_i hnone
      exact .inr ⟨hdot, fun r hr hcode => List.find?_eq_none.1 hnone r hr ((hcovers r).2 hcode), rfl⟩

/-- A character that is no capital I with a dot and that no run covers is in lower case. -/
theorem lowerChar_of_not_covers {c : Char} (hdot : c.toNat ≠ 0x130) (h : ∀ r ∈ caseRuns, ¬r.Covers c.toNat) :
    lowerChar c = [c] := by
  rcases lowerChar_cases c with ⟨hc, -⟩ | ⟨r, hr, hc, -⟩ | ⟨-, -, hc⟩
  · exact absurd hc hdot
  · exact absurd hc (h r hr)
  · exact hc

/-- Lower case is in lower case. -/
theorem lowerChar_of_mem_lowerChar {c d : Char} (h : d ∈ lowerChar c) : lowerChar d = [d] := by
  rcases lowerChar_cases c with ⟨-, hc⟩ | ⟨r, hr, hcode, hc⟩ | ⟨-, -, hc⟩
  · rw [hc, List.mem_cons, List.mem_singleton] at h
    rcases h with rfl | rfl <;> decide
  · rw [hc, List.mem_singleton] at h
    -- a target that is no code point would stand for the first character, which is in lower case as well
    rcases toNat_ofNat_cases (r.target c.toNat) with htarget | hfirst
    · have havoids := List.all_eq_true.1 (List.all_eq_true.1 all_caseRuns_avoids r hr)
      rw [h]
      apply lowerChar_of_not_covers
      · rw [htarget]
        intro hdot
        apply CaseRun.not_covers_target (havoids _ List.mem_cons_self) hcode
        rw [hdot]
        exact ⟨Nat.le_refl _, Nat.le_refl _, rfl⟩
      · intro other hother
        rw [htarget]
        exact CaseRun.not_covers_target (havoids other (List.mem_cons_of_mem _ hother)) hcode
    · rw [h, hfirst]
      decide
  · rw [hc, List.mem_singleton] at h
    rw [h, hc]

end QueryGate.Text
