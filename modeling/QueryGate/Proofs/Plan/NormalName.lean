import QueryGate.Proofs.Plan.Keys
import QueryGate.Proofs.Text.Latin
/-!
Names in normal form. Normalisation goes over a name three times: it composes characters, takes them to lower case and
leaves some out. No later step undoes an earlier one. What lower case makes of a composed letter is composed too if it is
kept, and since no letter that is kept composes with one before it, it does not matter what has been left out between
them. So a name in normal form is its own normal form, and so is its stem; hence every key of an index is found as it is.
-/
set_option autoImplicit false

namespace QueryGate.Plan

open Text (lowerChar isSimple isLatin compatibilityLetters normalFormKC IsComposed)

/-! ## Characters -/

theorem isKept_iff (c : Char) :
    isKept c = true ↔
      (0x61 ≤ c.toNat ∧ c.toNat ≤ 0x7a) ∨ (0x30 ≤ c.toNat ∧ c.toNat ≤ 0x39)
        ∨ (0xc0 ≤ c.toNat ∧ c.toNat ≤ 0x24f) ∨ (0x1e00 ≤ c.toNat ∧ c.toNat ≤ 0x1eff) := by
  simp only [isKept, Bool.or_eq_true, Bool.and_eq_true, decide_eq_true_eq, or_assoc]

/-- A character on which normalisation has done its work: it is kept, it is in lower case, and it is none of the letters
that compatibility takes apart. -/
structure IsNormalChar (c : Char) : Prop where
  kept : isKept c = true
  lower : lowerChar c = [c]
  whole : c.toNat ∉ compatibilityLetters

theorem IsNormalChar.isComposed {c : Char} (h : IsNormalChar c) : IsComposed c := by
  by_cases hascii : c.toNat < 0x80
  · exact Text.isComposed_of_ascii hascii
  · have hlatin : isLatin c.toNat = true := by
      have hkept := (isKept_iff c).1 h.kept
      rw [Text.isLatin_iff]
      omega
    exact Text.isComposed_of_isLatin hlatin ((Text.isSimple_iff _).2 h.whole)

/-- Each step of normalisation keeps what the one before it has reached. -/
theorem isNormalChar_of_mem_normalizeChars {cs : List Char} {d : Char} (h : d ∈ normalizeChars cs) :
    IsNormalChar d := by
  -- it has been kept, it is a lower case, and that is one of a character of the normal form
  obtain ⟨hlowered, hkept⟩ := List.mem_filter.1 h
  obtain ⟨c, hc, hd⟩ := List.mem_flatMap.1 hlowered
  have hsimple : isSimple d.toNat = true :=
    Text.isSimple_of_mem_lowerChar (Text.isSimple_of_mem_normalFormKC c hc) hd
  exact ⟨hkept, Text.lowerChar_of_mem_lowerChar hd, (Text.isSimple_iff _).1 hsimple⟩

/-- Normalisation leaves such characters as they are, whatever their order. -/
theorem normalizeChars_of_isNormalChar {cs : List Char} (h : ∀ c ∈ cs, IsNormalChar c) : normalizeChars cs = cs := by
  have hcomposed : normalFormKC cs = cs := Text.normalFormKC_of_isComposed fun c hc => (h c hc).isComposed
  have hlower : cs.flatMap lowerChar = cs :=
    (List.flatMap_congr fun c hc => (h c hc).lower).trans (List.flatMap_singleton' cs)
  rw [normalizeChars, hcomposed, hlower, List.filter_eq_self]
  exact fun c hc => (h c hc).kept

/-! ## Names -/

/-- A name in normal form. -/
def IsNormalName (name : String) : Prop := ∀ c ∈ name.toList, IsNormalChar c

theorem isNormalName_normalize (name : String) : IsNormalName (normalize name) := by
  intro c hc
  rw [normalize, String.toList_ofList] at hc
  exact isNormalChar_of_mem_normalizeChars hc

/-- The names in normal form are those that normalisation leaves as they are. -/
theorem normalize_eq_self_iff (name : String) : normalize name = name ↔ IsNormalName name := by
  constructor
  · intro hsame
    rw [← hsame]
    exact isNormalName_normalize name
  · intro h
    rw [normalize, normalizeChars_of_isNormalChar h, String.ofList_toList]

theorem IsNormalName.singularize {name : String} (h : IsNormalName name) : IsNormalName (singularize name) := by
  rcases singularize_cases name with hends | ⟨hsame, -⟩
  · intro c hc
    apply h c
    rw [hends, String.toList_append]
    exact List.mem_append_left _ hc
  · rw [hsame]
    exact h

/-! ## Keys -/

namespace Index

theorem isNormalName_of_mem_keysOf {resource : String × Contract.ResourceInfo} {key : String}
    (h : key ∈ keysOf resource) : IsNormalName key := by
  obtain ⟨name, -, hkey⟩ := List.mem_flatMap.1 h
  have hnormal : IsNormalName (normalize name) := isNormalName_normalize name
  rcases ((mem_keysOfName_iff name key).1 hkey).2 with hstem | hname
  · rw [hstem]
    exact hnormal.singularize
  · rw [hname]
    exact hnormal

/-- The keys of the index of a contract are names in normal form. -/
theorem isNormalName_of_get?_ofContract {c : Contract} {key canonical : String}
    (h : (ofContract c).entries.get? key = some canonical) : IsNormalName key := by
  rw [get?_ofContract] at h
  obtain ⟨resource, hlast, -⟩ := Option.map_eq_some_iff.1 h
  exact isNormalName_of_mem_keysOf (mem_of_lastWith_eq_some hlast).2

end Index

open Index

/-- Normalising a name again changes nothing: all its characters are small letters and digits of ASCII or Latin letters
with diacritics, and they are in lower case. Names of such characters are left as they are, but for those with a letter
that compatibility takes apart. Hence whatever is entered into the index of a contract under a key is found when the key
is looked up as a name. -/
theorem normalize_normalize :
    (∀ name, normalize (normalize name) = normalize name
        ∧ ∀ c ∈ (normalize name).toList,
            ((0x61 ≤ c.toNat ∧ c.toNat ≤ 0x7a) ∨ (0x30 ≤ c.toNat ∧ c.toNat ≤ 0x39)
              ∨ (0xc0 ≤ c.toNat ∧ c.toNat ≤ 0x24f) ∨ (0x1e00 ≤ c.toNat ∧ c.toNat ≤ 0x1eff))
            ∧ lowerChar c = [c])
      ∧ (∀ name, normalize name = name ↔ IsNormalName name)
      ∧ ∀ (c : Contract), ∀ entry ∈ (ofContract c).entries.entries,
          (ofContract c).resolve entry.1 = some entry.2 := by
  refine ⟨?_, normalize_eq_self_iff, ?_⟩
  · intro name
    have hnormal := isNormalName_normalize name
    refine ⟨(normalize_eq_self_iff _).2 hnormal, ?_⟩
    intro c hc
    exact ⟨(isKept_iff c).1 (hnormal c hc).kept, (hnormal c hc).lower⟩
  · rintro c ⟨key, canonical⟩ hentry
    have hfound : (ofContract c).entries.get? key = some canonical :=
      ((ofContract c).entries.get?_eq_some_iff_mem key canonical).2 hentry
    have hkey : normalize key = key := (normalize_eq_self_iff key).2 (isNormalName_of_get?_ofContract hfound)
    rw [resolve, hkey, hfound, Option.some_or]

/-- A name whose marks stand alone is composed and loses its capital and its line. In the shop the key that is the stem
of the first name leads to the second resource. -/
theorem normalize_sanPham :
    normalize (normalize "Sa\u0309n_pha\u0302\u0309m") = "sảnphẩm"
      ∧ (ofContract Shop.contract).resolve "book" = some "Book" :=
  ⟨(normalize_normalize.1 "Sa\u0309n_pha\u0302\u0309m").1.trans (by decide +kernel),
    normalize_normalize.2.2 Shop.contract ("book", "Book") (by decide +kernel)⟩

end QueryGate.Plan
