import QueryGate.Proofs.Text.LowerCase
import QueryGate.Proofs.Text.NormalForm
/-!
Latin letters in the tables of characters. Of the letters from U+00C0 to U+024F and from U+1E00 to U+1EFF all are composed
but for a few that compatibility takes apart: digraphs, the long s and some others. These few occur in no normal form, and
lower case does not lead to them from anything else.

These are properties of whole tables, so they are checked entry by entry: a check compares natural numbers, which
evaluates fast, and one lemma says what it means for a character.
-/
set_option autoImplicit false

namespace QueryGate.Text

open Decomposition

/-! ## Letters that are taken apart -/

/-- The letters that compatibility takes apart. -/
def compatibilityLetters : List Nat :=
  [0x132, 0x133, 0x13f, 0x140, 0x149, 0x17f, 0x1c4, 0x1c5, 0x1c6, 0x1c7, 0x1c8, 0x1c9, 0x1ca, 0x1cb, 0x1cc, 0x1f1,
    0x1f2, 0x1f3, 0x1e9a, 0x1e9b]

/-- Whether a code point is none of these letters. Most are told by a comparison or two. -/
def isSimple (code : Nat) : Bool :=
  Nat.ble code 0x131 || Nat.ble 0x1e9c code || (Nat.ble 0x1f4 code && Nat.ble code 0x1e99)
    || !compatibilityLetters.contains code

theorem isSimple_of_le {code : Nat} (h : code ≤ 0x131) : isSimple code = true := by
  rw [isSimple, Nat.ble_eq_true_of_le h]
  rfl

theorem isSimple_of_ge {code : Nat} (h : 0x1e9c ≤ code) : isSimple code = true := by
  rw [isSimple, Nat.ble_eq_true_of_le h, Bool.or_true]
  rfl

theorem isSimple_of_between {code : Nat} (h : 0x1f4 ≤ code) (h' : code ≤ 0x1e99) : isSimple code = true := by
  rw [isSimple, Nat.ble_eq_true_of_le h, Nat.ble_eq_true_of_le h', Bool.and_true, Bool.or_true]
  rfl

theorem mem_compatibilityLetters {code : Nat} (h : ¬isSimple code = true) : code ∈ compatibilityLetters := by
  rw [isSimple, Bool.or_eq_true, not_or, Bool.not_eq_true', Bool.not_eq_false] at h
  exact List.contains_iff_mem.1 h.2

theorem isSimple_iff (code : Nat) : isSimple code = true ↔ code ∉ compatibilityLetters := by
  have hletters : ∀ letter ∈ compatibilityLetters, isSimple letter = false := by decide
  constructor
  · intro hsimple hletter
    rw [hletters code hletter] at hsimple
    cases hsimple
  · intro hnot
    by_contra hsimple
    exact hnot (mem_compatibilityLetters hsimple)

theorem isSimple_ofNat {code : Nat} (h : isSimple code = true) : isSimple (Char.ofNat code).toNat = true := by
  rcases toNat_ofNat_cases code with hcode | hcode
  · rwa [hcode]
  · rw [hcode]
    rfl

/-! ## Decompositions -/

/-- Whether a condition holds of all code points that are packed into a number. -/
def allPacked (p : Nat → Bool) : Nat → Nat → Bool
  | 0, _ => true
  | fuel + 1, n => Nat.beq n 0 || (p (n % fieldSize) && allPacked p fuel (n / fieldSize))

theorem of_mem_unpack {p : Nat → Bool} {fuel n : Nat} (h : allPacked p fuel n = true) :
    ∀ code ∈ unpack fuel n, p code = true := by
  induction fuel generalizing n with
  | zero => exact fun code hcode => absurd hcode List.not_mem_nil
  | succ fuel ih =>
      intro code hcode
      rw [unpack] at hcode
      rw [allPacked, Bool.or_eq_true, Nat.beq_eq, Bool.and_eq_true] at h
      split at hcode
      · exact absurd hcode List.not_mem_nil
      · rename_i hne
        obtain ⟨hlast, hrest⟩ := h.resolve_left hne
        rcases List.mem_append.1 hcode with hcode | hcode
        · exact ih hrest code hcode
        · rw [List.mem_singleton.1 hcode]
          exact hlast

/-- What is found in the pages is the decomposition of an entry. -/
theorem exists_entry_of_byPage {code : Nat} {codes : List Nat} (h : byPage code = some codes) :
    ∃ page ∈ pages, ∃ entry ∈ page.2, entry % fieldSize = code ∧ codes = unpack 18 (entry / fieldSize) := by
  obtain ⟨page, hpage, h⟩ := Option.bind_eq_some_iff.1 h
  obtain ⟨entry, hentry, h⟩ := Option.bind_eq_some_iff.1 h
  obtain ⟨before, after, hpages, -⟩ := List.lookup_eq_some_iff.1 hpage
  have hcode := List.find?_some hentry
  rw [decide_eq_true_eq] at hcode
  exact ⟨(code / 256, page), by simp [hpages], entry, List.mem_of_find?_eq_some hentry, hcode,
    (Option.some.inj h).symm⟩

/-- No entry of a page has one of the letters in its decomposition. -/
theorem all_pages_isSimple :
    (pages.all fun page => page.2.all fun entry => allPacked isSimple 18 (entry / fieldSize)) = true := by
  decide +kernel

/-- No run leads to one of the letters. -/
theorem all_runs_isSimple :
    (runs.all fun r => compatibilityLetters.all fun letter =>
      Nat.blt letter r.target || Nat.blt (r.target + (r.last - r.first)) letter) = true := by
  decide +kernel

/-- Each of the letters has an entry of its own. -/
theorem all_compatibilityLetters_isSome : (compatibilityLetters.all fun letter => (byPage letter).isSome) = true := by
  decide +kernel

theorem isSimple_of_byRun {code : Nat} {codes : List Nat} (h : byRun code = some codes) :
    ∀ n ∈ codes, isSimple n = true := by
  obtain ⟨r, hr, rfl⟩ := Option.map_eq_some_iff.1 h
  have hrange := List.find?_some hr
  rw [Bool.and_eq_true, decide_eq_true_eq, decide_eq_true_eq] at hrange
  intro n hn
  rw [List.mem_singleton.1 hn]
  -- each run is checked to pass by all letters that are taken apart
  by_contra hletter
  have hruns := List.all_eq_true.1 all_runs_isSimple r (List.mem_of_find?_eq_some hr)
  have houtside := List.all_eq_true.1 hruns _ (mem_compatibilityLetters hletter)
  rw [Bool.or_eq_true, Nat.blt_eq, Nat.blt_eq] at houtside
  omega

theorem isSimple_of_hangul {code : Nat} {codes : List Nat} (h : hangul code = some codes) :
    ∀ n ∈ codes, isSimple n = true := by
  rw [hangul, Option.ite_none_right_eq_some] at h
  obtain ⟨hrange, h⟩ := h
  have hlead : isSimple (0x1100 + (code - 0xac00) / 588) = true := isSimple_of_between (by omega) (by omega)
  have hvowel : isSimple (0x1161 + (code - 0xac00) % 588 / 28) = true := isSimple_of_between (by omega) (by omega)
  have htail : isSimple (0x11a7 + (code - 0xac00) % 28) = true := isSimple_of_between (by omega) (by omega)
  rw [← Option.some.inj h]
  split
  · simp [hlead, hvowel]
  · simp [hlead, hvowel, htail]

/-- No decomposition has one of the letters in it. -/
theorem isSimple_of_mem_decompose (c : Char) : ∀ d ∈ decompose c, isSimple d.toNat = true := by
  intro d hd
  unfold decompose at hd
  split at hd
  · rename_i hascii
    rw [List.mem_singleton.1 hd]
    exact isSimple_of_le (by omega)
  · split at hd
    · rename_i codes hcodes
      obtain ⟨n, hn, rfl⟩ := List.mem_map.1 hd
      apply isSimple_ofNat
      rcases Option.or_eq_some_iff.1 hcodes with hpage | ⟨-, hcodes⟩
      · obtain ⟨page, hpages, entry, hentry, -, rfl⟩ := exists_entry_of_byPage hpage
        have hall := List.all_eq_true.1 all_pages_isSimple page hpages
        exact of_mem_unpack (List.all_eq_true.1 hall entry hentry) n hn
      · rcases Option.or_eq_some_iff.1 hcodes with hrun | ⟨-, hhangul⟩
        · exact isSimple_of_byRun hrun n hn
        · exact isSimple_of_hangul hhangul n hn
    · -- a letter that is taken apart would have been found
      rename_i hnone
      rw [List.mem_singleton.1 hd]
      by_contra hletter
      have hsome := List.all_eq_true.1 all_compatibilityLetters_isSome _ (mem_compatibilityLetters hletter)
      rw [(Option.or_eq_none_iff.1 hnone).1] at hsome
      cases hsome

/-! ## Compositions -/

/-- The table of compositions: letters and digits are no second characters in it, and it leads to the letters that are
taken apart from such letters only. -/
theorem all_compositions :
    (compositions.all fun row => Nat.ble 0x300 row.1 && !(Nat.ble 0x1e00 row.1 && Nat.ble row.1 0x1eff)
      && row.2.all fun entry => !isSimple (entry / 0x1000000) || isSimple (entry % 0x1000000)) = true := by
  decide +kernel

/-- A composite by the table is that of an entry. -/
theorem exists_entry_of_composeByTable {first second composite : Nat}
    (h : composeByTable first second = some composite) :
    ∃ row ∈ compositions, row.1 = second ∧ ∃ entry ∈ row.2, entry / 0x1000000 = first
      ∧ composite = entry % 0x1000000 := by
  obtain ⟨entries, hentries, h⟩ := Option.bind_eq_some_iff.1 h
  obtain ⟨entry, hentry, h⟩ := Option.bind_eq_some_iff.1 h
  obtain ⟨before, after, htable, -⟩ := List.lookup_eq_some_iff.1 hentries
  have hfirst := List.find?_some hentry
  rw [decide_eq_true_eq] at hfirst
  exact ⟨(second, entries), by simp [htable], rfl, entry, List.mem_of_find?_eq_some hentry, hfirst,
    (Option.some.inj h).symm⟩

/-- Hangul composes with some letters only, and to syllables. -/
theorem composeHangul_bounds {first second composite : Nat} (h : composeHangul first second = some composite) :
    0x1161 ≤ second ∧ second ≤ 0x11c2 ∧ 0xac00 ≤ composite := by
  rw [composeHangul] at h
  split at h
  · have := Option.some.inj h
    omega
  · rw [Option.ite_none_right_eq_some, Option.some.injEq] at h
    omega

/-- Composing leads to none of the letters that are taken apart, except from them. -/
theorem isSimple_of_compose? {first second composite : Char} (hfirst : isSimple first.toNat = true)
    (h : compose? first second = some composite) : isSimple composite.toNat = true := by
  obtain ⟨n, hn, rfl⟩ := Option.map_eq_some_iff.1 h
  apply isSimple_ofNat
  rcases Option.or_eq_some_iff.1 hn with htable | ⟨-, hhangul⟩
  · obtain ⟨row, hrow, -, entry, hentry, hcode, rfl⟩ := exists_entry_of_composeByTable htable
    have hall := List.all_eq_true.1 all_compositions row hrow
    rw [Bool.and_eq_true] at hall
    have hsimple := List.all_eq_true.1 hall.2 entry hentry
    rw [Bool.or_eq_true, hcode, hfirst] at hsimple
    exact hsimple.resolve_left Bool.false_ne_true
  · have hbounds := composeHangul_bounds hhangul
    exact isSimple_of_ge (by omega)

/-- None of the letters that are taken apart occurs in a normal form. -/
theorem isSimple_of_mem_normalFormKC {cs : List Char} : ∀ c ∈ normalFormKC cs, isSimple c.toNat = true :=
  forall_mem_normalFormKC (P := fun c => isSimple c.toNat = true) (fun _ _ _ => isSimple_of_compose?)
    isSimple_of_mem_decompose cs

/-- Letters and digits compose with nothing before them. -/
theorem compose?_eq_none {second : Char}
    (h : second.toNat < 0x300 ∨ (0x1e00 ≤ second.toNat ∧ second.toNat ≤ 0x1eff)) (first : Char) :
    compose? first second = none := by
  rw [← Option.not_isSome_iff_eq_none, Option.isSome_iff_exists]
  rintro ⟨composite, hcomposite⟩
  obtain ⟨n, hn, -⟩ := Option.map_eq_some_iff.1 hcomposite
  rcases Option.or_eq_some_iff.1 hn with htable | ⟨-, hhangul⟩
  · obtain ⟨row, hrow, hsecond, -⟩ := exists_entry_of_composeByTable htable
    have hall := List.all_eq_true.1 all_compositions row hrow
    simp only [Bool.and_eq_true, Bool.not_eq_true', Nat.ble_eq, ← Bool.not_eq_true] at hall
    omega
  · have hbounds := composeHangul_bounds hhangul
    omega

/-! ## Composed letters -/

/-- The classes of the marks of Latin letters with more than one mark. -/
def markClasses : List (Nat × Nat) :=
  [(0x300, 230), (0x301, 230), (0x302, 230), (0x303, 230), (0x304, 230), (0x306, 230), (0x307, 230), (0x308, 230),
    (0x309, 230), (0x30a, 230), (0x30c, 230), (0x31b, 216), (0x323, 220), (0x327, 202), (0x328, 202)]

theorem combiningClass_of_mem_markClasses : ∀ row ∈ markClasses, combiningClass (Char.ofNat row.1) = row.2 := by
  decide +kernel

/-- Whether marks are in order, by the classes above. -/
def marksInOrder : List Nat → Bool
  | m :: n :: rest =>
    (match markClasses.lookup m, markClasses.lookup n with
      | some k, some l => Nat.ble k l
      | _, _ => false)
      && marksInOrder (n :: rest)
  | _ => true

theorem isChain_of_marksInOrder {marks : List Nat} (h : marksInOrder marks = true) :
    (marks.map Char.ofNat).IsChain fun m n => combiningClass m ≤ combiningClass n := by
  have hclass {m k : Nat} (hm : markClasses.lookup m = some k) : combiningClass (Char.ofNat m) = k := by
    obtain ⟨before, after, hclasses, -⟩ := List.lookup_eq_some_iff.1 hm
    exact combiningClass_of_mem_markClasses (m, k) (by simp [hclasses])
  induction marks with
  | nil => exact List.isChain_nil
  | cons m rest ih =>
      cases rest with
      | nil => exact List.isChain_singleton _
      | cons n rest =>
          rw [marksInOrder, Bool.and_eq_true] at h
          refine List.isChain_cons_cons.2 ⟨?_, ih h.2⟩
          have hle := h.1
          split at hle
          · rename_i k l hm hn
            rw [hclass hm, hclass hn]
            exact Nat.le_of_ble_eq_true hle
          · cases hle

/-- Whether marks compose with a start one after the other to a letter. -/
def composesTo : Nat → List Nat → Nat → Bool
  | start, [], letter => Nat.beq start letter
  | start, m :: marks, letter =>
    Nat.blt start 0xd800 && Nat.blt m 0xd800
      && match composeByTable start m with
        | some composite => composesTo composite marks letter
        | none => false

theorem toNat_ofNat_of_lt {code : Nat} (h : code < 0xd800) : (Char.ofNat code).toNat = code := by
  rw [Char.ofNat, dif_pos (.inl h)]
  rfl

theorem foldlM_of_composesTo {start letter : Nat} {marks : List Nat} (h : composesTo start marks letter = true) :
    (marks.map Char.ofNat).foldlM compose? (Char.ofNat start) = some (Char.ofNat letter) := by
  induction marks generalizing start with
  | nil =>
      obtain rfl : start = letter := Nat.eq_of_beq_eq_true h
      rfl
  | cons m marks ih =>
      rw [composesTo, Bool.and_eq_true, Bool.and_eq_true, Nat.blt_eq, Nat.blt_eq] at h
      obtain ⟨⟨hstart, hm⟩, h⟩ := h
      split at h
      · rename_i composite hcomposite
        have hpair : compose? (Char.ofNat start) (Char.ofNat m) = some (Char.ofNat composite) := by
          rw [compose?, toNat_ofNat_of_lt hstart, toNat_ofNat_of_lt hm, hcomposite]
          rfl
        rw [List.map_cons, List.foldlM_cons, hpair]
        exact ih h
      · cases h

/-- Whether a code point is that of a Latin letter with a mark or the like. -/
def isLatin (code : Nat) : Bool :=
  (Nat.ble 0xc0 code && Nat.ble code 0x24f) || (Nat.ble 0x1e00 code && Nat.ble code 0x1eff)

theorem isLatin_iff (code : Nat) :
    isLatin code = true ↔ (0xc0 ≤ code ∧ code ≤ 0x24f) ∨ (0x1e00 ≤ code ∧ code ≤ 0x1eff) := by
  rw [isLatin, Bool.or_eq_true, Bool.and_eq_true, Bool.and_eq_true, Nat.ble_eq, Nat.ble_eq, Nat.ble_eq, Nat.ble_eq]

/-- Whether an entry of a page decomposes its letter to a start and marks that compose to it. -/
def isComposedEntry (entry : Nat) : Bool :=
  match unpack 18 (entry / fieldSize) with
  | [] => false
  | start :: marks => Nat.blt start 0x300 && marksInOrder marks && composesTo start marks (entry % fieldSize)

/-- In the pages all Latin letters but those that are taken apart decompose so. -/
theorem all_pages_isComposed :
    (pages.all fun page => page.2.all fun entry =>
      !isLatin (entry % fieldSize) || !isSimple (entry % fieldSize) || isComposedEntry entry) = true := by
  decide +kernel

/-- No run decomposes a Latin letter. -/
theorem all_runs_outside :
    (runs.all fun r =>
      Nat.blt r.last 0xc0 || (Nat.blt 0x24f r.first && Nat.blt r.last 0x1e00) || Nat.blt 0x1eff r.first) = true := by
  decide +kernel

/-- None of the later Latin letters is a mark. -/
theorem all_combiningClasses_outside :
    (combiningClasses.all fun row => row.2.all fun range =>
      Nat.blt (range % 0x1000000) 0x1e00 || Nat.blt 0x1eff (range / 0x1000000)) = true := by
  decide +kernel

/-- Letters and digits are starts. -/
theorem combiningClass_eq_zero {c : Char} (h : c.toNat < 0x300 ∨ (0x1e00 ≤ c.toNat ∧ c.toNat ≤ 0x1eff)) :
    combiningClass c = 0 := by
  unfold combiningClass
  rcases h with h | h
  · exact if_pos h
  · simp only [if_neg (show ¬c.toNat < 0x300 by omega)]
    split
    · rename_i n ranges hfound
      have hany := List.find?_some hfound
      obtain ⟨range, hrange, hcode⟩ := List.any_eq_true.1 hany
      have hall := List.all_eq_true.1 all_combiningClasses_outside _ (List.mem_of_find?_eq_some hfound)
      have houtside := List.all_eq_true.1 hall range hrange
      simp only [Bool.and_eq_true, Bool.or_eq_true, decide_eq_true_eq, Nat.blt_eq] at hcode houtside
      omega
    · rfl

/-- A letter or digit that decomposes to itself is composed. -/
theorem isComposed_of_decompose_eq {c : Char} (h : c.toNat < 0x300 ∨ (0x1e00 ≤ c.toNat ∧ c.toNat ≤ 0x1eff))
    (hself : decompose c = [c]) : IsComposed c :=
  ⟨c, [], hself, combiningClass_eq_zero h, compose?_eq_none h, List.isChain_nil, rfl⟩

theorem isComposed_of_ascii {c : Char} (h : c.toNat < 0x80) : IsComposed c :=
  isComposed_of_decompose_eq (.inl (by omega)) (if_pos h)

/-- A character is composed if what its entry decomposes it to composes to it. -/
theorem isComposed_of_isComposedEntry {c : Char} {entry : Nat} (h : isComposedEntry entry = true)
    (hcode : entry % fieldSize = c.toNat)
    (hdecompose : decompose c = (unpack 18 (entry / fieldSize)).map Char.ofNat) : IsComposed c := by
  rw [isComposedEntry] at h
  split at h
  · cases h
  · rename_i start marks hunpacked
    rw [Bool.and_eq_true, Bool.and_eq_true, Nat.blt_eq] at h
    obtain ⟨⟨hstart, horder⟩, hcomposes⟩ := h
    have hstartCode : (Char.ofNat start).toNat < 0x300 := by
      rw [toNat_ofNat_of_lt (by omega)]
      exact hstart
    have hcomposite := foldlM_of_composesTo hcomposes
    rw [hcode, Char.ofNat_toNat] at hcomposite
    refine ⟨Char.ofNat start, marks.map Char.ofNat, ?_, combiningClass_eq_zero (.inl hstartCode),
      compose?_eq_none (.inl hstartCode), isChain_of_marksInOrder horder, hcomposite⟩
    rw [hdecompose, hunpacked, List.map_cons]

/-- A Latin letter is decomposed by a page or not at all. -/
theorem byRun_or_hangul_eq_none {code : Nat} (h : isLatin code = true) : (byRun code).or (hangul code) = none := by
  have hbounds := (isLatin_iff code).1 h
  have hrun : byRun code = none := by
    rw [byRun, Option.map_eq_none_iff, List.find?_eq_none]
    intro r hr hcode
    have houtside := List.all_eq_true.1 all_runs_outside r hr
    simp only [Bool.and_eq_true, Bool.or_eq_true, decide_eq_true_eq, Nat.blt_eq] at hcode houtside
    omega
  have hhangul : hangul code = none := if_neg (by omega)
  rw [hrun, hhangul, Option.none_or]

/-- The Latin letters that are not taken apart are composed. -/
theorem isComposed_of_isLatin {c : Char} (hlatin : isLatin c.toNat = true) (hsimple : isSimple c.toNat = true) :
    IsComposed c := by
  have hbounds := (isLatin_iff c.toNat).1 hlatin
  cases hpage : byPage c.toNat with
  | none =>
      -- nothing takes it apart, so it is a start without marks
      apply isComposed_of_decompose_eq (by omega)
      rw [decompose, if_neg (by omega), hpage, byRun_or_hangul_eq_none hlatin]
      rfl
  | some codes =>
      obtain ⟨page, hpages, entry, hentry, hcode, rfl⟩ := exists_entry_of_byPage hpage
      have hchecked := List.all_eq_true.1 (List.all_eq_true.1 all_pages_isComposed page hpages) entry hentry
      rw [hcode, hlatin, hsimple] at hchecked
      apply isComposed_of_isComposedEntry hchecked hcode
      rw [decompose, if_neg (by omega), hpage]
      rfl

/-! ## Lower case -/

/-- The runs of lower case lead to the letters that are taken apart from such letters only. -/
theorem all_caseRuns_isSimple :
    (caseRuns.all fun r => compatibilityLetters.all fun letter =>
      Nat.blt ((letter : Int) - r.shift).toNat r.first || Nat.blt r.last ((letter : Int) - r.shift).toNat
        || !Nat.beq ((((letter : Int) - r.shift).toNat - r.first) % r.step) 0
        || !isSimple ((letter : Int) - r.shift).toNat) = true := by
  decide +kernel

/-- Lower case leads to none of the letters that are taken apart, except from them. -/
theorem isSimple_of_mem_lowerChar {c d : Char} (hc : isSimple c.toNat = true) (h : d ∈ lowerChar c) :
    isSimple d.toNat = true := by
  rcases lowerChar_cases c with ⟨-, hlower⟩ | ⟨r, hr, ⟨hfirst, hlast, hstep⟩, hlower⟩ | ⟨-, -, hlower⟩
  · rw [hlower, List.mem_cons, List.mem_singleton] at h
    rcases h with rfl | rfl <;> decide
  · rw [hlower, List.mem_singleton] at h
    rw [h]
    apply isSimple_ofNat
    by_contra hletter
    have hmem := mem_compatibilityLetters hletter
    have hchecked := List.all_eq_true.1 (List.all_eq_true.1 all_caseRuns_isSimple r hr) _ hmem
    -- the letter is the lower case of this character, so it leads back to it
    have hback : ((r.target c.toNat : Int) - r.shift).toNat = c.toNat := by
      have hpos : ∀ letter ∈ compatibilityLetters, 0 < letter := by decide
      have := hpos _ hmem
      rw [CaseRun.target] at this ⊢
      omega
    rw [hback, hc, hstep] at hchecked
    simp only [Bool.or_eq_true, Nat.blt_eq, Bool.not_true, Bool.false_eq_true, or_false, Nat.beq_refl] at hchecked
    omega
  · rw [hlower, List.mem_singleton] at h
    rwa [h]

end QueryGate.Text
