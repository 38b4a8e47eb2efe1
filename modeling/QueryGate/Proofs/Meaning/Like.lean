import Mathlib.Data.List.Basic
import Mathlib.Data.List.Infix
import QueryGate.Text.LowerCase
/-!
Texts compared with patterns. In a pattern a percent sign stands for any characters or none, an underscore for any
single one, and a backslash for nothing but that the character after it is meant as it is; every other character stands
for itself. Where case does not matter, text and pattern are brought into one case first; the three signs have none.

A pattern with a percent sign after it is one for what begins as the pattern says, and with one on either side it is one
for what has such a part. A text that has no sign in it is a pattern for itself alone. One that has some is not: there
is a text that matches it, and that is shorter or has another character where the sign stands.
-/
set_option autoImplicit false

namespace QueryGate.Meaning

/-! ## Patterns -/

/-- The characters that do not stand for themselves in a pattern. -/
def isSign (c : Char) : Bool := c = '%' || c = '_' || c = '\\'

/-- Whether no character of a text is a sign. -/
def isPlain (text : List Char) : Bool := text.all fun c => !isSign c

/-- What a place of a pattern stands for. -/
inductive PatternPart where
  | anything
  | anyOne
  | exactly (c : Char)
deriving DecidableEq, Repr

/-- The parts of a pattern. What ends in a backslash to which no character belongs is no pattern. -/
def partsOf? : List Char → Option (List PatternPart)
  | [] => some []
  | c :: rest =>
    if c = '%' then (partsOf? rest).map (.anything :: ·)
    else if c = '_' then (partsOf? rest).map (.anyOne :: ·)
    else if c = '\\' then
      match rest with
      | [] => none
      | d :: rest => (partsOf? rest).map (.exactly d :: ·)
    else (partsOf? rest).map (.exactly c :: ·)

/-- Whether parts of a pattern cover a text from its beginning to its end. -/
def covers : List PatternPart → List Char → Bool
  | [], text => text.isEmpty
  | .anything :: rest, text => text.tails.any (covers rest)
  | .anyOne :: rest, _ :: text => covers rest text
  | .exactly c :: rest, d :: text => c = d && covers rest text
  | .anyOne :: _, [] => false
  | .exactly _ :: _, [] => false

/-- Whether a text matches a pattern. -/
def isLike (text pattern : List Char) : Bool :=
  match partsOf? pattern with
  | some parts => covers parts text
  | none => false

theorem isLike_eq_covers {pattern : List Char} {parts : List PatternPart} (h : partsOf? pattern = some parts)
    (text : List Char) : isLike text pattern = covers parts text := by
  rw [isLike, h]

theorem isPlain_cons (c : Char) (rest : List Char) : isPlain (c :: rest) = (!isSign c && isPlain rest) := rfl

theorem isPlain_append (front back : List Char) : isPlain (front ++ back) = (isPlain front && isPlain back) :=
  List.all_append

/-! ## Reading a pattern part by part -/

/-- How a part is written in a pattern. -/
inductive Spells : PatternPart → List Char → Prop where
  | anything : Spells .anything ['%']
  | anyOne : Spells .anyOne ['_']
  | escaped (c : Char) : Spells (.exactly c) ['\\', c]
  | plain (c : Char) (no_sign : isSign c = false) : Spells (.exactly c) [c]

/-- A part that is written at the beginning of a pattern is its first. -/
theorem Spells.partsOf?_append {part : PatternPart} {text : List Char} (h : Spells part text) (rest : List Char) :
    partsOf? (text ++ rest) = (partsOf? rest).map (part :: ·) := by
  cases h with
  | plain c no_sign =>
      simp only [isSign, Bool.or_eq_false_iff, decide_eq_false_iff_not] at no_sign
      rw [List.singleton_append, partsOf?.eq_def]
      simp only [if_neg no_sign.1.1, if_neg no_sign.1.2, if_neg no_sign.2]
  | _ =>
      rw [partsOf?.eq_def]
      rfl

/-- A text is blank, or a backslash alone, or begins with a part. -/
theorem pattern_induction {motive : List Char → Prop} (nil : motive []) (backslash : motive ['\\'])
    (part : ∀ {part text}, Spells part text → ∀ rest, motive rest → motive (text ++ rest)) (pattern : List Char) :
    motive pattern := by
  -- a part is read from one character or, behind a backslash, from two
  induction pattern using partsOf?.induct with
  | case1 => exact nil
  | case2 rest ih => exact part .anything rest ih
  | case3 rest _ ih => exact part .anyOne rest ih
  | case4 => exact backslash
  | case5 d rest _ _ ih => exact part (.escaped d) rest ih
  | case6 c rest hpercent hunderscore hbackslash ih =>
      exact part (.plain c (by simp [isSign, hpercent, hunderscore, hbackslash])) rest ih

/-- A pattern goes on with what is written after it. -/
theorem partsOf?_append {front : List Char} {parts : List PatternPart} (h : partsOf? front = some parts)
    (back : List Char) : partsOf? (front ++ back) = (partsOf? back).map (parts ++ ·) := by
  induction front using pattern_induction generalizing parts with
  | nil =>
      obtain rfl : [] = parts := Option.some.inj h
      simp
  | backslash => cases h
  | part hspelled rest ih =>
      rw [hspelled.partsOf?_append, Option.map_eq_some_iff] at h
      obtain ⟨read, hread, rfl⟩ := h
      rw [List.append_assoc, hspelled.partsOf?_append, ih hread, Option.map_map]
      rfl

/-- What is no pattern is one with a backslash after it to which no character belongs. -/
theorem isSome_partsOf?_or (text : List Char) :
    (partsOf? text).isSome = true ∨ ∃ front, text = front ++ ['\\'] ∧ (partsOf? front).isSome = true := by
  induction text using pattern_induction with
  | nil => exact .inl rfl
  | backslash => exact .inr ⟨[], rfl, rfl⟩
  | @part part text hspelled rest ih =>
      rw [hspelled.partsOf?_append, Option.isSome_map]
      refine ih.imp id ?_
      rintro ⟨front, rfl, hfront⟩
      refine ⟨text ++ front, (List.append_assoc ..).symm, ?_⟩
      rw [hspelled.partsOf?_append, Option.isSome_map]
      exact hfront

/-- With a percent sign after it every text is a pattern. -/
theorem isSome_partsOf?_append_percent (text : List Char) : (partsOf? (text ++ ['%'])).isSome = true := by
  rcases isSome_partsOf?_or text with h | ⟨front, rfl, h⟩
  · obtain ⟨parts, hparts⟩ := Option.isSome_iff_exists.1 h
    rw [partsOf?_append hparts]
    rfl
  · -- the percent sign belongs to the backslash that had no character
    obtain ⟨parts, hparts⟩ := Option.isSome_iff_exists.1 h
    rw [List.append_assoc, partsOf?_append hparts]
    rfl

/-- In a text without signs every character stands for itself. -/
theorem partsOf?_of_isPlain {text : List Char} (h : isPlain text = true) :
    partsOf? text = some (text.map .exactly) := by
  induction text with
  | nil => rfl
  | cons c rest ih =>
      rw [isPlain_cons, Bool.and_eq_true, Bool.not_eq_true'] at h
      rw [← List.singleton_append, (Spells.plain c h.1).partsOf?_append, ih h.2]
      rfl

/-! ## What parts cover -/

/-- What a single part covers. -/
def PatternPart.Covers : PatternPart → List Char → Prop
  | .anything, _ => True
  | .anyOne, text => ∃ c, text = [c]
  | .exactly c, text => text = [c]

/-- The first of some parts covers the beginning of a text, and the others cover what follows. -/
theorem covers_cons (part : PatternPart) (parts : List PatternPart) (text : List Char) :
    covers (part :: parts) text = true ↔
      ∃ first second, first ++ second = text ∧ part.Covers first ∧ covers parts second = true := by
  cases part with
  | anything =>
      simp only [covers, List.any_eq_true, List.mem_tails, PatternPart.Covers, true_and]
      constructor
      · rintro ⟨second, ⟨first, htext⟩, hcovers⟩
        exact ⟨first, second, htext, hcovers⟩
      · rintro ⟨first, second, htext, hcovers⟩
        exact ⟨second, ⟨first, htext⟩, hcovers⟩
  | anyOne =>
      cases text with
      | nil => simp [covers, PatternPart.Covers]
      | cons c rest => simp [covers, PatternPart.Covers]
  | exactly d =>
      cases text with
      | nil => simp [covers, PatternPart.Covers]
      | cons c rest =>
          simp only [covers, Bool.and_eq_true, decide_eq_true_eq, PatternPart.Covers]
          constructor
          · rintro ⟨rfl, hcovers⟩
            exact ⟨[d], rest, rfl, rfl, hcovers⟩
          · rintro ⟨_, second, htext, rfl, hcovers⟩
            obtain ⟨rfl, rfl⟩ := List.cons.inj htext
            exact ⟨rfl, hcovers⟩

/-- Parts cover a text exactly if the first of them cover its beginning and the others what follows. -/
theorem covers_append (front back : List PatternPart) (text : List Char) :
    covers (front ++ back) text = true ↔
      ∃ first second, first ++ second = text ∧ covers front first = true ∧ covers back second = true := by
  induction front generalizing text with
  | nil => simp [covers]
  | cons part front ih =>
      simp only [List.cons_append, covers_cons, ih]
      constructor
      · rintro ⟨start, _, rfl, hstart, first, second, rfl, hfirst, hsecond⟩
        exact ⟨start ++ first, second, List.append_assoc .., ⟨start, first, rfl, hstart, hfirst⟩, hsecond⟩
      · rintro ⟨_, second, rfl, ⟨start, first, rfl, hstart, hfirst⟩, hsecond⟩
        exact ⟨start, first ++ second, (List.append_assoc ..).symm, hstart, first, second, rfl, hfirst, hsecond⟩

theorem covers_anything (text : List Char) : covers [.anything] text = true :=
  (covers_cons _ _ _).2 ⟨text, [], List.append_nil text, trivial, rfl⟩

/-- Characters that stand for themselves cover the text that they are. -/
theorem covers_map_exactly_iff (own text : List Char) : covers (own.map .exactly) text = true ↔ own = text := by
  induction own generalizing text with
  | nil => cases text <;> simp [covers]
  | cons c rest ih =>
      simp only [List.map_cons, covers_cons, PatternPart.Covers, ih]
      constructor
      · rintro ⟨_, _, rfl, rfl, rfl⟩
        rfl
      · rintro rfl
        exact ⟨[c], rest, rfl, rfl, rfl⟩

/-! ## Texts with a percent sign around them -/

/-- A text matches a pattern with a percent sign before it exactly if it ends in what matches the pattern. -/
theorem isLike_percent_cons_iff (text pattern : List Char) :
    isLike text ('%' :: pattern) = true ↔ ∃ rest, rest <:+ text ∧ isLike rest pattern = true := by
  have hparts : partsOf? ('%' :: pattern) = (partsOf? pattern).map (.anything :: ·) :=
    Spells.anything.partsOf?_append pattern
  cases hpattern : partsOf? pattern with
  | none => simp [isLike, hparts, hpattern]
  | some parts =>
      simp only [isLike, hparts, hpattern, Option.map_some, covers_cons, PatternPart.Covers, true_and]
      constructor
      · rintro ⟨first, rest, htext, hcovers⟩
        exact ⟨rest, ⟨first, htext⟩, hcovers⟩
      · rintro ⟨rest, ⟨first, htext⟩, hcovers⟩
        exact ⟨first, rest, htext, hcovers⟩

/-- A text matches a pattern with a percent sign after it exactly if it begins with what matches the pattern. -/
theorem isLike_append_percent_iff {pattern : List Char} (h : (partsOf? pattern).isSome = true) (text : List Char) :
    isLike text (pattern ++ ['%']) = true ↔ ∃ start, start <+: text ∧ isLike start pattern = true := by
  obtain ⟨parts, hparts⟩ := Option.isSome_iff_exists.1 h
  have hwhole : partsOf? (pattern ++ ['%']) = some (parts ++ [.anything]) := partsOf?_append hparts ['%']
  simp only [isLike_eq_covers hparts, isLike_eq_covers hwhole, covers_append, covers_anything, and_true]
  constructor
  · rintro ⟨start, rest, htext, hcovers⟩
    exact ⟨start, ⟨rest, htext⟩, hcovers⟩
  · rintro ⟨start, ⟨rest, htext⟩, hcovers⟩
    exact ⟨start, rest, htext, hcovers⟩

/-- A text matches a pattern between percent signs exactly if some part of it matches the pattern. -/
theorem isLike_between_percents_iff {pattern : List Char} (h : (partsOf? pattern).isSome = true) (text : List Char) :
    isLike text ('%' :: (pattern ++ ['%'])) = true ↔ ∃ part, part <:+: text ∧ isLike part pattern = true := by
  simp only [isLike_percent_cons_iff, isLike_append_percent_iff h, List.infix_iff_prefix_suffix]
  constructor
  · rintro ⟨rest, hrest, part, hpart, hlike⟩
    exact ⟨part, ⟨rest, hpart, hrest⟩, hlike⟩
  · rintro ⟨part, ⟨rest, hpart, hrest⟩, hlike⟩
    exact ⟨rest, hrest, part, hpart, hlike⟩

/-- After a backslash to which no other character belongs, a percent sign is meant as it is. -/
theorem isLike_backslash_percent_iff {pattern : List Char} (h : (partsOf? pattern).isSome = true) (text : List Char) :
    isLike text (pattern ++ ['\\', '%']) = true ↔ ∃ start, start ++ ['%'] = text ∧ isLike start pattern = true := by
  obtain ⟨parts, hparts⟩ := Option.isSome_iff_exists.1 h
  have hwhole : partsOf? (pattern ++ ['\\', '%']) = some (parts ++ ['%'].map .exactly) := partsOf?_append hparts _
  simp only [isLike_eq_covers hparts, isLike_eq_covers hwhole, covers_append, covers_map_exactly_iff]
  constructor
  · rintro ⟨start, _, htext, hcovers, rfl⟩
    exact ⟨start, htext, hcovers⟩
  · rintro ⟨start, htext, hcovers⟩
    exact ⟨start, ['%'], htext, hcovers, rfl⟩

/-! ## Plain texts as patterns -/

/-- Only the text itself matches a pattern without signs. -/
theorem isLike_iff_of_isPlain {pattern : List Char} (h : isPlain pattern = true) (text : List Char) :
    isLike text pattern = true ↔ pattern = text := by
  rw [isLike_eq_covers (partsOf?_of_isPlain h), covers_map_exactly_iff]

/-- A shortest text that a part covers. -/
def PatternPart.sample : PatternPart → List Char
  | .anything => []
  | .anyOne => ['%']
  | .exactly c => [c]

/-- Parts cover the text that is made of a sample of each. -/
theorem covers_flatMap_sample (parts : List PatternPart) : covers parts (parts.flatMap PatternPart.sample) = true := by
  induction parts with
  | nil => rfl
  | cons part rest ih =>
      have hsample : part.Covers part.sample := by
        cases part with
        | anything => trivial
        | anyOne => exact ⟨'%', rfl⟩
        | exactly c => rfl
      exact (covers_cons _ _ _).2 ⟨part.sample, _, rfl, hsample, ih⟩

/-- The sample of a part is no longer than the part is written, and is what is written only if that is no sign. -/
theorem Spells.sample_shorter {part : PatternPart} {text : List Char} (h : Spells part text) :
    part.sample.length < text.length ∨ part.sample.length = text.length
      ∧ (part.sample = text → isPlain text = true) := by
  cases h with
  | anything => exact .inl (by decide)
  | anyOne => exact .inr ⟨rfl, by decide⟩
  | escaped c => exact .inl Nat.one_lt_two
  | plain c no_sign => exact .inr ⟨rfl, fun _ => by simp [isPlain, no_sign]⟩

/-- The sample of a pattern with a percent sign after it is no longer than the pattern, and is the pattern itself only
if that has no signs. -/
theorem sample_append_percent {pattern : List Char} {parts : List PatternPart}
    (h : partsOf? (pattern ++ ['%']) = some parts) :
    (parts.flatMap PatternPart.sample).length ≤ pattern.length
      ∧ (parts.flatMap PatternPart.sample = pattern → isPlain pattern = true) := by
  induction pattern using pattern_induction generalizing parts with
  | nil =>
      obtain rfl : [.anything] = parts := Option.some.inj h
      exact ⟨Nat.le_refl _, fun _ => rfl⟩
  | backslash =>
      obtain rfl : [.exactly '%'] = parts := Option.some.inj h
      exact ⟨Nat.le_refl _, by decide⟩
  | part hspelled rest ih =>
      rw [List.append_assoc, hspelled.partsOf?_append, Option.map_eq_some_iff] at h
      obtain ⟨read, hread, rfl⟩ := h
      obtain ⟨hlength, hplain⟩ := ih hread
      rw [List.flatMap_cons, List.length_append, List.length_append]
      rcases hspelled.sample_shorter with hshort | ⟨hsame, hown⟩
      · -- what is shorter cannot be the pattern, since the rest does not make up for it
        refine ⟨by omega, fun heq => ?_⟩
        have := congrArg List.length heq
        rw [List.length_append, List.length_append] at this
        omega
      · refine ⟨by omega, fun heq => ?_⟩
        obtain ⟨hfirst, hsecond⟩ := List.append_inj heq hsame
        rw [isPlain_append, hown hfirst, hplain hsecond]
        rfl

end QueryGate.Meaning
