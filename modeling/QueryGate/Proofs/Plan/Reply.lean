import Mathlib.Data.List.TakeWhile
import QueryGate.Plan.Raw
import QueryGate.Proofs.Number.Rounding
/-!
What a reply is taken for. A value that names a resource is a query; one that does not and carries a message is that
message; every other value is unclear. Here the conditions are said without the functions that decide them: a resource is
named unless its member is missing or one of the values that count as nothing, and a message is a text that is not blank.
-/
set_option autoImplicit false

namespace QueryGate.Text

/-- Without the white space at its ends a blank text is empty, and no other one is. -/
theorem trim_eq_empty_iff (s : String) : trim s = "" ↔ isBlankText s = true := by
  have hchars : trim s = "" ↔ trimChars s.toList = [] := by
    rw [trim, ← String.toList_eq_nil_iff, String.toList_ofList]
  rw [hchars, trimChars, List.reverse_eq_nil_iff, List.dropWhile_eq_nil_iff, isBlankText, List.all_eq_true]
  constructor
  · intro hrest c hc
    by_contra hblank
    -- a character that is not blank survives at the front, and is then the last one of the reversed rest
    have hne : s.toList.dropWhile isBlank ≠ [] := by
      rw [Ne, List.dropWhile_eq_nil_iff]
      exact fun hall => hblank (hall c hc)
    have hhead := List.head_dropWhile_not isBlank hne
    rw [hrest _ (List.mem_reverse.2 (List.head_mem hne))] at hhead
    cases hhead
  · intro hall c hc
    exact hall c ((List.dropWhile_sublist isBlank).subset (List.mem_reverse.1 hc))

end QueryGate.Text

namespace QueryGate.Plan

open Json

/-! ## Resources and messages -/

/-- The values that count as nothing: null, false, the zeros and the empty text. -/
inductive IsFalsy : Value → Prop where
  | null : IsFalsy .null
  | no : IsFalsy (.boolean false)
  | natural : IsFalsy (.number (.natural 0))
  | real (negative : Bool) (exponent : Int) : IsFalsy (.number (.real (.finite negative 0 exponent)))
  | empty : IsFalsy (.string "")

/-- A whole number counts as nothing if it is zero, and a negative one never does. -/
theorem isZero_numeral_iff (n : Numeral) : n.toBinary64.isZero = true ↔ IsFalsy (.number n) := by
  cases n with
  | natural n =>
      rw [Numeral.toBinary64, Number.Binary64.isZero_ofNat_iff]
      constructor
      · rintro rfl
        exact .natural
      · intro h
        cases h
        rfl
  | negative n =>
      rw [Numeral.toBinary64, Number.Binary64.isZero_neg, Number.Binary64.isZero_ofNat_iff]
      exact iff_of_false (Nat.succ_ne_zero n) (by intro h; cases h)
  | real x =>
      cases x with
      | nan => exact iff_of_false (by simp [Numeral.toBinary64, Number.Binary64.isZero]) (by intro h; cases h)
      | infinity _ => exact iff_of_false (by simp [Numeral.toBinary64, Number.Binary64.isZero]) (by intro h; cases h)
      | finite negative mantissa exponent =>
          rw [Numeral.toBinary64, Number.Binary64.isZero_finite_iff]
          constructor
          · rintro rfl
            exact .real negative exponent
          · intro h
            cases h
            rfl

theorem isTruthy_eq_false_iff (v : Value) : isTruthy v = false ↔ IsFalsy v := by
  cases v with
  | null => exact iff_of_true rfl .null
  | boolean b =>
      cases b with
      | false => exact iff_of_true rfl .no
      | true => exact iff_of_false (by simp [isTruthy]) (by intro h; cases h)
  | number n =>
      rw [isTruthy, Bool.not_eq_false']
      exact isZero_numeral_iff n
  | string text =>
      by_cases h : text = ""
      · subst h
        exact iff_of_true rfl .empty
      · refine iff_of_false (by simp [isTruthy, h]) ?_
        intro hfalsy
        cases hfalsy
        exact h rfl
  | list _ => exact iff_of_false (by simp [isTruthy]) (by intro h; cases h)
  | object _ => exact iff_of_false (by simp [isTruthy]) (by intro h; cases h)

/-- A value names a resource: it is an object with a member for the resource that does not count as nothing. -/
def NamesResource (v : Value) : Prop := ∃ resource, v.get? "resource" = some resource ∧ ¬IsFalsy resource

theorem hasResource_eq_true_iff (v : Value) : hasResource v = true ↔ NamesResource v := by
  unfold hasResource NamesResource
  cases v.get? "resource" with
  | none => simp
  | some resource => simp [← isTruthy_eq_false_iff]

/-- A value says something in the planner's own words: its message is a text that is not blank, and what it says is the
text without white space at its ends. -/
def Says (v : Value) (words : String) : Prop :=
  ∃ text, v.get? "message" = some (.string text) ∧ Text.isBlankText text = false ∧ words = Text.trim text

theorem messageOf_eq_some_iff (v : Value) (words : String) : messageOf v = some words ↔ Says v words := by
  unfold messageOf Says
  rw [Option.filter_eq_some_iff, Option.map_eq_some_iff]
  simp only [Option.bind_eq_some_iff, decide_eq_true_eq]
  constructor
  · rintro ⟨⟨text, ⟨message, hmessage, htext⟩, rfl⟩, hne⟩
    cases message with
    | string _ =>
        cases htext
        exact ⟨text, hmessage, Bool.eq_false_iff.2 fun hblank => hne ((Text.trim_eq_empty_iff text).2 hblank), rfl⟩
    | _ => cases htext
  · rintro ⟨text, hmessage, hblank, rfl⟩
    refine ⟨⟨text, ⟨_, hmessage, rfl⟩, rfl⟩, fun hempty => ?_⟩
    rw [(Text.trim_eq_empty_iff text).1 hempty] at hblank
    cases hblank

/-! ## Replies -/

/-- What a value is as a reply, with the condition for each. -/
inductive IsReply (v : Value) : Reply → Prop where
  | query (named : NamesResource v) : IsReply v (.query (readPlan v))
  | message (unnamed : ¬NamesResource v) {words : String} (spoken : Says v words) : IsReply v (.message words)
  | unclear (unnamed : ¬NamesResource v) (silent : ∀ words, ¬Says v words) : IsReply v .unclear

theorem isReply_ofValue (v : Value) : IsReply v (.ofValue v) := by
  unfold Reply.ofValue
  by_cases hresource : hasResource v = true
  · rw [if_pos hresource]
    exact .query ((hasResource_eq_true_iff v).1 hresource)
  · rw [if_neg hresource]
    rw [hasResource_eq_true_iff] at hresource
    cases hmessage : messageOf v with
    | none =>
        refine .unclear hresource fun words hwords => ?_
        rw [(messageOf_eq_some_iff v words).2 hwords] at hmessage
        cases hmessage
    | some words => exact .message hresource ((messageOf_eq_some_iff v words).1 hmessage)

/-- A value says one thing at most. -/
theorem Says.eq {v : Value} {words words' : String} (h : Says v words) (h' : Says v words') : words = words' :=
  Option.some.inj (((messageOf_eq_some_iff v words).2 h).symm.trans ((messageOf_eq_some_iff v words').2 h'))

/-- A value that names a resource is a plan. -/
theorem NamesResource.ofValue_eq {v : Value} (h : NamesResource v) : RawPlan.ofValue v = .ok (readPlan v) := by
  obtain ⟨resource, hmember, -⟩ := h
  cases v with
  | object members => rfl
  | _ => cases hmember

end QueryGate.Plan
