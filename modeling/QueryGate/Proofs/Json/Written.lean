import QueryGate.Proofs.Json.Token
/-!
Documents that are written are read back. A document that is read knows its places; without them it shows the tree that
was written, wherever the text of the tree stands. Fuel is bounded by three times the length of the text, since reading
passes a character or opens a level at least every third step.
-/
set_option autoImplicit false

namespace QueryGate.Json

/-- A tree whose numbers are natural numbers of 64 bits. -/
inductive Tree.IsWhole : Tree → Prop where
  | null : IsWhole .null
  | boolean (b : Bool) : IsWhole (.boolean b)
  | natural {n : Nat} (small : n < Literal.significandBound) : IsWhole (.number (.natural n))
  | string (s : String) : IsWhole (.string s)
  | list {items : List Tree} (all : ∀ t ∈ items, IsWhole t) : IsWhole (.list items)
  | object {members : List (String × Tree)} (all : ∀ m ∈ members, IsWhole m.2) : IsWhole (.object members)

mutual

/-- Without its places a document is this tree. -/
inductive Document.Shows : Document → Tree → Prop where
  | null (start finish : Place) : Document.Shows (.null start finish) .null
  | boolean (start finish : Place) (b : Bool) : Document.Shows (.boolean start b finish) (.boolean b)
  | number (start finish : Place) (n : Numeral) : Document.Shows (.number start (.ok n) finish) (.number n)
  | string (start finish : Place) (s : String) : Document.Shows (.string start (.ok s) finish) (.string s)
  | list (start : Place) {items : Items} {ts : List Tree} (items_show : Items.Shows items ts) :
    Document.Shows (.list start items) (.list ts)
  | object (start : Place) {members : Members} {ms : List (String × Tree)} (members_show : Members.Shows members ms) :
    Document.Shows (.object start members) (.object ms)

/-- Without their places the items of a list are these trees. -/
inductive Items.Shows : Items → List Tree → Prop where
  | close (finish : Place) : Items.Shows (.close finish) []
  | item {d : Document} {t : Tree} (settled : Place) {rest : Items} {ts : List Tree} (item_shows : Document.Shows d t)
    (rest_shows : Items.Shows rest ts) : Items.Shows (.item d settled rest) (t :: ts)

/-- Without their places the members of an object are these. -/
inductive Members.Shows : Members → List (String × Tree) → Prop where
  | close (finish : Place) : Members.Shows (.close finish) []
  | member (name : String) (keyFinish keySettled settled : Place) {d : Document} {t : Tree} {rest : Members}
    {ms : List (String × Tree)} (member_shows : Document.Shows d t) (rest_shows : Members.Shows rest ms) :
    Members.Shows (.member (.ok name) keyFinish keySettled d settled rest) ((name, t) :: ms)

end

/-! ## Texts -/

namespace Tree

/-- The characters of a tree that stands at a depth. -/
def chars (depth : Nat) (t : Tree) : List Char := (t.prettyAt depth).toList

/-- The blanks before an item or a member at a depth. -/
def lineChars (depth : Nat) : List Char := '\n' :: List.replicate (2 * depth) ' '

theorem toList_newLine (depth : Nat) : (newLine depth).toList = lineChars depth := String.toList_ofList

theorem isBlank_of_mem_lineChars {depth : Nat} {c : Char} (h : c ∈ lineChars depth) : Cursor.isBlank c = true := by
  rcases List.mem_cons.1 h with rfl | h
  · rfl
  · rw [List.eq_of_mem_replicate h]
    rfl

/-- The characters of items after another item. -/
def itemsTail (depth : Nat) : List Tree → List Char
  | [] => []
  | t :: rest => ',' :: lineChars depth ++ t.chars depth ++ itemsTail depth rest

/-- The characters of a member after its opening quote. -/
def memberChars (depth : Nat) (m : String × Tree) : List Char :=
  m.1.toList.flatMap escapeChar ++ '"' :: ':' :: ' ' :: m.2.chars depth

/-- The characters of members after another member. -/
def membersTail (depth : Nat) : List (String × Tree) → List Char
  | [] => []
  | m :: rest => ',' :: lineChars depth ++ '"' :: memberChars depth m ++ membersTail depth rest

/-- The value of a member is part of its text. -/
theorem length_chars_le_memberChars (depth : Nat) (m : String × Tree) :
    (m.2.chars depth).length ≤ (memberChars depth m).length := by
  simp only [memberChars, List.length_append, List.length_cons]
  omega

theorem toList_prettyItems (depth : Nat) (t : Tree) (rest : List Tree) :
    (prettyItems depth (t :: rest)).toList = lineChars depth ++ t.chars depth ++ itemsTail depth rest := by
  induction rest generalizing t with
  | nil =>
      have htext : prettyItems depth [t] = newLine depth ++ t.prettyAt depth := rfl
      simp [htext, toList_newLine, chars, itemsTail]
  | cons u rest ih =>
      have htext : prettyItems depth (t :: u :: rest) =
          newLine depth ++ t.prettyAt depth ++ "," ++ prettyItems depth (u :: rest) := rfl
      rw [htext, String.toList_append, ih]
      simp [toList_newLine, chars, itemsTail]

theorem toList_prettyMembers (depth : Nat) (m : String × Tree) (rest : List (String × Tree)) :
    (prettyMembers depth (m :: rest)).toList =
      lineChars depth ++ '"' :: memberChars depth m ++ membersTail depth rest := by
  induction rest generalizing m with
  | nil =>
      have htext : prettyMembers depth [m] = newLine depth ++ quote m.1 ++ ": " ++ m.2.prettyAt depth := rfl
      simp [htext, toList_newLine, toList_quote, chars, membersTail, memberChars]
  | cons u rest ih =>
      obtain ⟨k, t⟩ := m
      have htext : prettyMembers depth ((k, t) :: u :: rest) =
          newLine depth ++ quote k ++ ": " ++ t.prettyAt depth ++ "," ++ prettyMembers depth (u :: rest) := rfl
      rw [htext, String.toList_append, ih]
      simp [toList_newLine, toList_quote, chars, membersTail, memberChars]

theorem chars_null (depth : Nat) : Tree.null.chars depth = ['n', 'u', 'l', 'l'] := by
  have htext : Tree.null.prettyAt depth = "null" := rfl
  rw [chars, htext]
  rfl

theorem chars_false (depth : Nat) : (Tree.boolean false).chars depth = ['f', 'a', 'l', 's', 'e'] := by
  have htext : (Tree.boolean false).prettyAt depth = "false" := rfl
  rw [chars, htext]
  rfl

theorem chars_true (depth : Nat) : (Tree.boolean true).chars depth = ['t', 'r', 'u', 'e'] := by
  have htext : (Tree.boolean true).prettyAt depth = "true" := rfl
  rw [chars, htext]
  rfl

theorem chars_natural (depth n : Nat) : (Tree.number (.natural n)).chars depth = Nat.toDigits 10 n :=
  Statement.toList_toString_nat n

theorem chars_string (depth : Nat) (s : String) :
    (Tree.string s).chars depth = '"' :: (s.toList.flatMap escapeChar ++ ['"']) :=
  toList_quote s

theorem chars_list_nil (depth : Nat) : (Tree.list []).chars depth = ['[', ']'] := by
  have htext : (Tree.list []).prettyAt depth = "[]" := rfl
  rw [chars, htext]
  rfl

theorem chars_list_cons (depth : Nat) (t : Tree) (rest : List Tree) :
    (Tree.list (t :: rest)).chars depth =
      '[' :: (lineChars (depth + 1) ++ (t.chars (depth + 1) ++ itemsTail (depth + 1) rest)
        ++ (lineChars depth ++ [']'])) := by
  have htext : (Tree.list (t :: rest)).prettyAt depth =
      "[" ++ prettyItems (depth + 1) (t :: rest) ++ newLine depth ++ "]" := rfl
  rw [chars, htext, String.toList_append, String.toList_append, String.toList_append, toList_prettyItems,
    toList_newLine]
  simp

theorem chars_object_nil (depth : Nat) : (Tree.object []).chars depth = ['\x7b', '\x7d'] := by
  have htext : (Tree.object []).prettyAt depth = "\x7b\x7d" := rfl
  rw [chars, htext]
  rfl

theorem chars_object_cons (depth : Nat) (m : String × Tree) (rest : List (String × Tree)) :
    (Tree.object (m :: rest)).chars depth =
      '\x7b' :: (lineChars (depth + 1) ++ '"' :: (memberChars (depth + 1) m ++ membersTail (depth + 1) rest)
        ++ (lineChars depth ++ ['\x7d'])) := by
  have htext : (Tree.object (m :: rest)).prettyAt depth =
      "\x7b" ++ prettyMembers (depth + 1) (m :: rest) ++ newLine depth ++ "\x7d" := rfl
  rw [chars, htext, String.toList_append, String.toList_append, String.toList_append, toList_prettyMembers,
    toList_newLine]
  simp

/-- The text of a tree begins with no blank, and with no bracket that closes. -/
theorem IsWhole.exists_chars {t : Tree} (h : t.IsWhole) (depth : Nat) :
    ∃ x xs, t.chars depth = x :: xs ∧ Cursor.isBlank x = false ∧ x ≠ ']' := by
  cases h with
  | null => exact ⟨_, _, chars_null depth, rfl, by decide⟩
  | boolean b =>
      cases b with
      | false => exact ⟨_, _, chars_false depth, rfl, by decide⟩
      | true => exact ⟨_, _, chars_true depth, rfl, by decide⟩
  | @natural n small =>
      obtain ⟨d, ds, hdigits, hdigit⟩ := exists_toDigits_eq_digit_cons n
      refine ⟨d, ds, (chars_natural depth n).trans hdigits, Cursor.isBlank_of_isDigit hdigit, ?_⟩
      rintro rfl
      cases hdigit
  | string s => exact ⟨_, _, chars_string depth s, rfl, by decide⟩
  | @list items all =>
      cases items with
      | nil => exact ⟨_, _, chars_list_nil depth, rfl, by decide⟩
      | cons t rest => exact ⟨_, _, chars_list_cons depth t rest, rfl, by decide⟩
  | @object members all =>
      cases members with
      | nil => exact ⟨_, _, chars_object_nil depth, rfl, by decide⟩
      | cons m rest => exact ⟨_, _, chars_object_cons depth m rest, rfl, by decide⟩

end Tree

/-! ## Reading -/

section Steps

variable (fuel : Nat) {c : Cursor} {x : Char} {xs : List Char} (h : c.skipBlanks.rest = x :: xs)
include h

/-- What the reader of a value does at the first character that is no blank, other than at a quote. -/
theorem readValue_eq (hquote : x ≠ '"') : readValue (fuel + 1) c =
    if x = 'n' then c.skipBlanks.step.constant c.skipBlanks.place ['u', 'l', 'l'] .null
    else if x = 't' then c.skipBlanks.step.constant c.skipBlanks.place ['r', 'u', 'e'] (.boolean · true)
    else if x = 'f' then c.skipBlanks.step.constant c.skipBlanks.place ['a', 'l', 's', 'e'] (.boolean · false)
    else if x = '-' then c.skipBlanks.step.number c.skipBlanks.place true
    else if x.isDigit then c.skipBlanks.number c.skipBlanks.place false
    else if x = '[' then
      (.list c.skipBlanks.place (readItems fuel true c.skipBlanks.step).1, (readItems fuel true c.skipBlanks.step).2)
    else if x = '\x7b' then
      (.object c.skipBlanks.place (readMembers fuel true c.skipBlanks.step).1,
        (readMembers fuel true c.skipBlanks.step).2)
    else (.broken c.skipBlanks.place (.same .expectedValue c.skipBlanks.afterByte), none) := by
  rw [readValue.eq_def]
  simp only [h, hquote, if_false]

/-- What the reader of items does at the first character that is no blank, other than after a comma. -/
theorem readItems_eq (first : Bool) (hcomma : x ≠ ',') : readItems (fuel + 1) first c =
    if x = ']' then (.close c.skipBlanks.step.place, some c.skipBlanks.step)
    else if first then readItem fuel c.skipBlanks
    else (.stop (.same .expectedCommaOrBracket c.skipBlanks.afterByte), none) := by
  rw [readItems.eq_def]
  simp only [h, hcomma, if_false]

/-- What the reader of members does at the first character that is no blank, other than after a comma. -/
theorem readMembers_eq (first : Bool) (hcomma : x ≠ ',') : readMembers (fuel + 1) first c =
    if x = '\x7d' then (.close c.skipBlanks.step.place, some c.skipBlanks.step)
    else if first then
      if x = '"' then readMember fuel c.skipBlanks.step
      else (.stop (.same .expectedKey c.skipBlanks.afterByte), none)
    else (.stop (.same .expectedCommaOrBrace c.skipBlanks.afterByte), none) := by
  rw [readMembers.eq_def]
  simp only [h, hcomma, if_false]

end Steps

/-- The text of a tree at a depth is read back wherever it stands, with enough fuel. -/
def IsReadAt (depth : Nat) (t : Tree) : Prop :=
  ∀ (c : Cursor) (fuel : Nat) (blanks rest : List Char), (∀ b ∈ blanks, Cursor.isBlank b = true) →
    c.rest = blanks ++ (t.chars depth ++ rest) → IsNumberEnd rest → 3 * (t.chars depth).length ≤ fuel →
    ∃ d next, readValue fuel c = (d, some next) ∧ d.Shows t ∧ next.rest = rest

/-- A word of the notation is read as what it stands for. -/
theorem exists_constant {c : Cursor} {letters rest : List Char} (start : Place) (make : Place → Place → Document)
    (h : c.rest = letters ++ rest) :
    ∃ finish next, c.constant start letters make = (make start finish, some next) ∧ next.rest = rest := by
  obtain ⟨next, hword, hnext⟩ := Cursor.exists_word letters h
  exact ⟨next.place, next, by rw [Cursor.constant, hword], hnext⟩

/-- With fuel for three steps a character there is fuel for one. -/
theorem exists_eq_add_one_of_three_mul_length_cons_le {x : Char} {xs : List Char} {fuel : Nat}
    (h : 3 * (x :: xs).length ≤ fuel) : ∃ left, fuel = left + 1 ∧ 3 * xs.length + 2 ≤ left := by
  rw [List.length_cons] at h
  exact ⟨fuel - 1, by omega, by omega⟩

/-- A tree that is written as a word is read back if the first letter leads the reader to that word. -/
theorem isReadAt_constant {depth : Nat} {t : Tree} {x : Char} {letters : List Char} (make : Place → Place → Document)
    (htext : t.chars depth = x :: letters) (hx : Cursor.isBlank x = false)
    (hword : ∀ (c : Cursor) (fuel : Nat) (xs : List Char) (place : Place), c.skipBlanks = ⟨x :: xs, place⟩ →
      readValue (fuel + 1) c = c.skipBlanks.step.constant place letters make)
    (hshows : ∀ start finish, (make start finish).Shows t) : IsReadAt depth t := by
  intro c fuel blanks rest hblanks h _ hfuel
  rw [htext] at h hfuel
  obtain ⟨fuel, rfl, -⟩ := exists_eq_add_one_of_three_mul_length_cons_le hfuel
  obtain ⟨place, hskip⟩ := Cursor.exists_skipBlanks hblanks hx h
  obtain ⟨finish, next, hconstant, hnext⟩ :=
    exists_constant place make (Cursor.rest_step (congrArg Cursor.rest hskip))
  exact ⟨_, next, (hword c fuel _ place hskip).trans hconstant, hshows place finish, hnext⟩

theorem isReadAt_null (depth : Nat) : IsReadAt depth .null := by
  refine isReadAt_constant .null (Tree.chars_null depth) rfl (fun c fuel xs place hskip => ?_) .null
  rw [readValue_eq fuel (congrArg Cursor.rest hskip) (by decide), hskip]
  rfl

theorem isReadAt_boolean (depth : Nat) (b : Bool) : IsReadAt depth (.boolean b) := by
  cases b with
  | false =>
      refine isReadAt_constant (.boolean · false) (Tree.chars_false depth) rfl (fun c fuel xs place hskip => ?_)
        fun start finish => .boolean start finish false
      rw [readValue_eq fuel (congrArg Cursor.rest hskip) (by decide), hskip]
      rfl
  | true =>
      refine isReadAt_constant (.boolean · true) (Tree.chars_true depth) rfl (fun c fuel xs place hskip => ?_)
        fun start finish => .boolean start finish true
      rw [readValue_eq fuel (congrArg Cursor.rest hskip) (by decide), hskip]
      rfl

theorem isReadAt_natural (depth : Nat) {n : Nat} (small : n < Literal.significandBound) :
    IsReadAt depth (.number (.natural n)) := by
  intro c fuel blanks rest hblanks h hend hfuel
  rw [Tree.chars_natural] at h hfuel
  obtain ⟨d, ds, hdigits, hdigit⟩ := exists_toDigits_eq_digit_cons n
  -- none of the letters with which the reader compares first is a digit
  have hne {x : Char} (hx : x.isDigit = false) : d ≠ x := by
    rintro rfl
    rw [hx] at hdigit
    cases hdigit
  rw [hdigits] at h hfuel
  obtain ⟨fuel, rfl, -⟩ := exists_eq_add_one_of_three_mul_length_cons_le hfuel
  obtain ⟨place, hskip⟩ := Cursor.exists_skipBlanks hblanks (Cursor.isBlank_of_isDigit hdigit) h
  obtain ⟨finish, next, hnumber, hnext⟩ :=
    Cursor.exists_number (c := c.skipBlanks) small place (by rw [hskip, hdigits]; rfl) hend
  rw [hskip] at hnumber
  refine ⟨_, next, ?_, .number place finish (.natural n), hnext⟩
  rw [readValue_eq fuel (congrArg Cursor.rest hskip) (hne rfl), hskip, ← hnumber]
  simp only [hdigit, hne (rfl : Char.isDigit 'n' = false), hne (rfl : Char.isDigit 't' = false),
    hne (rfl : Char.isDigit 'f' = false), hne (rfl : Char.isDigit '-' = false), if_true, if_false]

theorem isReadAt_string (depth : Nat) (s : String) : IsReadAt depth (.string s) := by
  intro c fuel blanks rest hblanks h _ hfuel
  rw [Tree.chars_string] at h hfuel
  obtain ⟨fuel, rfl, -⟩ := exists_eq_add_one_of_three_mul_length_cons_le hfuel
  obtain ⟨place, hskip⟩ := Cursor.exists_skipBlanks hblanks rfl h
  have hrest := Cursor.rest_step (congrArg Cursor.rest hskip)
  rw [List.append_eq, List.append_assoc] at hrest
  obtain ⟨next, hstring, hnext⟩ := Cursor.exists_string s hrest
  rw [hskip] at hstring
  refine ⟨.string place (.ok s) next.place, next, ?_, .string place next.place s, hnext⟩
  rw [readValue.eq_def, hskip]
  simp only [hstring]
  rfl

/-! ### Lists -/

/-- A number is at its end before a comma and before a line that ends. -/
theorem isNumberEnd_cons {x : Char} (hx : x = ',' ∨ x = '\n') (xs : List Char) : IsNumberEnd (x :: xs) := by
  intro y hy
  obtain rfl : x = y := Option.some.inj hy
  rcases hx with rfl | rfl <;> decide

/-- After an item the closing bracket ends a list. -/
theorem exists_readItems_close (fuel : Nat) (first : Bool) {c : Cursor} {blanks rest : List Char}
    (hblanks : ∀ b ∈ blanks, Cursor.isBlank b = true) (h : c.rest = blanks ++ ']' :: rest) :
    ∃ finish next, readItems (fuel + 1) first c = (.close finish, some next) ∧ next.rest = rest := by
  obtain ⟨place, hskip⟩ := Cursor.exists_skipBlanks hblanks rfl h
  refine ⟨c.skipBlanks.step.place, c.skipBlanks.step, ?_, Cursor.rest_step (congrArg Cursor.rest hskip)⟩
  rw [readItems_eq fuel (congrArg Cursor.rest hskip) first (by decide)]
  exact if_pos rfl

/-- After a comma the next item is read. -/
theorem readItems_comma (fuel : Nat) {c : Cursor} {depth : Nat} {x : Char} {xs : List Char}
    (hx : Cursor.isBlank x = false) (hclose : x ≠ ']') (h : c.rest = ',' :: (Tree.lineChars depth ++ x :: xs)) :
    ∃ place, readItems (fuel + 1) false c = readItem fuel ⟨x :: xs, place⟩ := by
  obtain ⟨comma, hcomma⟩ := Cursor.exists_skipBlanks (List.forall_mem_nil _) (rfl : Cursor.isBlank ',' = false) h
  obtain ⟨place, hskip⟩ := Cursor.exists_skipBlanks (fun _ => Tree.isBlank_of_mem_lineChars) hx
    (Cursor.rest_step (congrArg Cursor.rest hcomma))
  refine ⟨place, ?_⟩
  rw [hcomma] at hskip
  have hnext : ',' ≠ ']' := by decide
  rw [readItems.eq_def, hcomma]
  simp only [if_neg hnext, if_false, if_true, hskip, Bool.false_eq_true]
  split
  · rename_i heq
    cases heq
    exact absurd rfl hclose
  · rfl

/-- An item is read before what follows it. -/
theorem IsReadAt.exists_readItem {depth : Nat} {t : Tree} (ht : IsReadAt depth t) {c : Cursor} {fuel : Nat} {x : Char}
    {xs : List Char} (hx : x = ',' ∨ x = '\n') (h : c.rest = t.chars depth ++ x :: xs)
    (hfuel : 3 * (t.chars depth).length ≤ fuel) :
    ∃ d next, readItem (fuel + 1) c =
        (.item d next.settleItem (readItems fuel false next).1, (readItems fuel false next).2)
      ∧ d.Shows t ∧ next.rest = x :: xs := by
  obtain ⟨d, next, hread, hshows, hnext⟩ :=
    ht c fuel [] (x :: xs) (List.forall_mem_nil _) h (isNumberEnd_cons hx xs) hfuel
  refine ⟨d, next, ?_, hshows, hnext⟩
  rw [readItem.eq_def]
  simp only [hread]

/-- The items of a list are read from the first one to the closing bracket. -/
theorem exists_readItem {depth outer : Nat} (t : Tree) (ts : List Tree) (ht : IsReadAt depth t)
    (hts : ∀ u ∈ ts, u.IsWhole ∧ IsReadAt depth u) {c : Cursor} {fuel : Nat} {rest : List Char}
    (h : c.rest = t.chars depth ++ (Tree.itemsTail depth ts ++ (Tree.lineChars outer ++ ']' :: rest)))
    (hfuel : 3 * ((t.chars depth).length + (Tree.itemsTail depth ts).length) + 2 ≤ fuel) :
    ∃ items next, readItem fuel c = (items, some next) ∧ items.Shows (t :: ts) ∧ next.rest = rest := by
  obtain ⟨fuel, rfl⟩ : ∃ left, fuel = left + 2 := ⟨fuel - 2, by omega⟩
  -- along the items: each is followed by a comma and the next item, or by the line of the closing bracket
  induction ts generalizing t c fuel with
  | nil =>
      obtain ⟨d, next, hitem, hshows, hnext⟩ := ht.exists_readItem (.inr rfl) h (by omega : _ ≤ fuel + 1)
      obtain ⟨finish, last, hclose, hlast⟩ :=
        exists_readItems_close fuel false (fun _ => Tree.isBlank_of_mem_lineChars) hnext
      rw [hclose] at hitem
      exact ⟨_, last, hitem, .item _ hshows (.close finish), hlast⟩
  | cons u ts ih =>
      rw [List.forall_mem_cons] at hts
      obtain ⟨⟨hwhole, hu⟩, hts⟩ := hts
      obtain ⟨x, xs, hchars, hblank, hclose⟩ := hwhole.exists_chars depth
      rw [Tree.itemsTail] at h hfuel
      simp only [List.cons_append, List.append_assoc, List.length_cons, List.length_append] at h hfuel
      obtain ⟨d, next, hitem, hshows, hnext⟩ := ht.exists_readItem (.inl rfl) h (by omega : _ ≤ fuel + 1)
      rw [hchars, List.cons_append] at hnext
      -- the comma costs a step, and the blanks behind it cost none
      obtain ⟨place, hcomma⟩ := readItems_comma fuel hblank hclose hnext
      obtain ⟨left, rfl⟩ : ∃ left, fuel = left + 2 := ⟨fuel - 2, by omega⟩
      have hrest : x :: (xs ++ (Tree.itemsTail depth ts ++ (Tree.lineChars outer ++ ']' :: rest))) =
          u.chars depth ++ (Tree.itemsTail depth ts ++ (Tree.lineChars outer ++ ']' :: rest)) := by
        rw [hchars, List.cons_append]
      obtain ⟨items, last, hitems, hrests, hlast⟩ := ih u hu hts (c := ⟨_, place⟩) hrest left (by omega)
      rw [hcomma, hitems] at hitem
      exact ⟨_, last, hitem, .item _ hshows hrests, hlast⟩

/-- The items of a list are read after its opening bracket. -/
theorem exists_readItems {depth outer : Nat} {t : Tree} {ts : List Tree}
    (h : ∀ u ∈ t :: ts, u.IsWhole ∧ IsReadAt depth u) {c : Cursor} {fuel : Nat} {rest : List Char}
    (hc : c.rest =
      Tree.lineChars depth ++ (t.chars depth ++ (Tree.itemsTail depth ts ++ (Tree.lineChars outer ++ ']' :: rest))))
    (hfuel : 3 * ((t.chars depth).length + (Tree.itemsTail depth ts).length) + 2 ≤ fuel) :
    ∃ items next, readItems (fuel + 1) true c = (items, some next) ∧ items.Shows (t :: ts) ∧ next.rest = rest := by
  obtain ⟨⟨hwhole, ht⟩, hts⟩ := List.forall_mem_cons.1 h
  obtain ⟨x, xs, hchars, hblank, hclose⟩ := hwhole.exists_chars depth
  have hcons := hc
  rw [hchars, List.cons_append] at hcons
  obtain ⟨place, hskip⟩ := Cursor.exists_skipBlanks (fun _ => Tree.isBlank_of_mem_lineChars) hblank hcons
  have hrest : c.skipBlanks.rest =
      t.chars depth ++ (Tree.itemsTail depth ts ++ (Tree.lineChars outer ++ ']' :: rest)) := by
    rw [hskip, hchars, List.cons_append]
  obtain ⟨items, next, hread, hshows, hnext⟩ := exists_readItem t ts ht hts hrest hfuel
  refine ⟨items, next, ?_, hshows, hnext⟩
  rw [hskip] at hread
  rw [readItems.eq_def, hskip, ← hread]
  -- a list that is not empty does not begin with its closing bracket
  exact if_neg hclose

theorem isReadAt_list {depth : Nat} {items : List Tree}
    (h : ∀ t ∈ items, t.IsWhole ∧ IsReadAt (depth + 1) t) : IsReadAt depth (.list items) := by
  intro c fuel blanks rest hblanks hc _ hfuel
  have hopen {xs : List Char} {place : Place} (hskip : c.skipBlanks = ⟨'[' :: xs, place⟩) (fuel : Nat) :
      readValue (fuel + 1) c =
        (.list place (readItems fuel true c.skipBlanks.step).1, (readItems fuel true c.skipBlanks.step).2) := by
    rw [readValue_eq fuel (congrArg Cursor.rest hskip) (by decide), hskip]
    rfl
  cases items with
  | nil =>
      rw [Tree.chars_list_nil] at hc hfuel
      obtain ⟨left, rfl⟩ : ∃ left, fuel = left + 2 := ⟨fuel - 2, by simp at hfuel; omega⟩
      obtain ⟨place, hskip⟩ := Cursor.exists_skipBlanks hblanks rfl hc
      obtain ⟨finish, next, hclose, hnext⟩ := exists_readItems_close left true (List.forall_mem_nil _)
        (Cursor.rest_step (congrArg Cursor.rest hskip))
      exact ⟨_, next, by rw [hopen hskip, hclose], .list place (.close finish), hnext⟩
  | cons t ts =>
      rw [Tree.chars_list_cons] at hc hfuel
      simp only [List.cons_append, List.append_assoc, List.nil_append, List.length_cons, List.length_append] at hc hfuel
      obtain ⟨left, rfl⟩ : ∃ left, fuel = left + 2 := ⟨fuel - 2, by omega⟩
      obtain ⟨place, hskip⟩ := Cursor.exists_skipBlanks hblanks rfl hc
      obtain ⟨items, next, hread, hshows, hnext⟩ :=
        exists_readItems h (Cursor.rest_step (congrArg Cursor.rest hskip)) (by omega : _ ≤ left)
      exact ⟨_, next, by rw [hopen hskip, hread], .list place hshows, hnext⟩

/-! ### Objects -/

/-- After a member the closing brace ends an object. -/
theorem exists_readMembers_close (fuel : Nat) (first : Bool) {c : Cursor} {blanks rest : List Char}
    (hblanks : ∀ b ∈ blanks, Cursor.isBlank b = true) (h : c.rest = blanks ++ '\x7d' :: rest) :
    ∃ finish next, readMembers (fuel + 1) first c = (.close finish, some next) ∧ next.rest = rest := by
  obtain ⟨place, hskip⟩ := Cursor.exists_skipBlanks hblanks rfl h
  refine ⟨c.skipBlanks.step.place, c.skipBlanks.step, ?_, Cursor.rest_step (congrArg Cursor.rest hskip)⟩
  rw [readMembers_eq fuel (congrArg Cursor.rest hskip) first (by decide)]
  exact if_pos rfl

/-- After a comma the next member is read. -/
theorem exists_readMembers_comma (fuel : Nat) {c : Cursor} {depth : Nat} {xs : List Char}
    (h : c.rest = ',' :: (Tree.lineChars depth ++ '"' :: xs)) :
    ∃ place, readMembers (fuel + 1) false c = readMember fuel ⟨xs, place⟩ := by
  obtain ⟨comma, hcomma⟩ := Cursor.exists_skipBlanks (List.forall_mem_nil _) (rfl : Cursor.isBlank ',' = false) h
  obtain ⟨quote, hquote⟩ := Cursor.exists_skipBlanks (fun _ => Tree.isBlank_of_mem_lineChars)
    (rfl : Cursor.isBlank '"' = false) (Cursor.rest_step (congrArg Cursor.rest hcomma))
  refine ⟨quote.after '"', ?_⟩
  have hnext : ',' ≠ '\x7d' := by decide
  rw [hcomma] at hquote
  rw [readMembers.eq_def, hcomma]
  simp only [if_neg hnext, if_false, if_true, hquote, Bool.false_eq_true]
  rfl

/-- A member is read before what follows it. -/
theorem IsReadAt.exists_readMember {depth : Nat} {m : String × Tree} (hm : IsReadAt depth m.2) {c : Cursor}
    {fuel : Nat} {x : Char} {xs : List Char} (hx : x = ',' ∨ x = '\n')
    (h : c.rest = Tree.memberChars depth m ++ x :: xs) (hfuel : 3 * (m.2.chars depth).length ≤ fuel) :
    ∃ keyFinish keySettled settled d next, readMember (fuel + 1) c =
        (.member (.ok m.1) keyFinish keySettled d settled (readMembers fuel false next).1,
          (readMembers fuel false next).2)
      ∧ d.Shows m.2 ∧ next.rest = x :: xs := by
  rw [Tree.memberChars, List.append_assoc] at h
  obtain ⟨key, hkey, hafter⟩ := Cursor.exists_string m.1 h
  obtain ⟨colon, hcolon⟩ := Cursor.exists_skipBlanks (List.forall_mem_nil _) (rfl : Cursor.isBlank ':' = false) hafter
  have hspace : ∀ b ∈ [' '], Cursor.isBlank b = true := List.forall_mem_singleton.2 rfl
  obtain ⟨d, next, hread, hshows, hnext⟩ := hm key.skipBlanks.step fuel [' '] (x :: xs) hspace
    (Cursor.rest_step (congrArg Cursor.rest hcolon)) (isNumberEnd_cons hx xs) hfuel
  rw [hcolon] at hread
  refine ⟨key.place, key.settleMember, next.settleMember, d, next, ?_, hshows, hnext⟩
  rw [readMember.eq_def]
  simp only [hkey, hcolon, if_true, hread]

/-- The members of an object are read from the first one to the closing brace. -/
theorem exists_readMember {depth outer : Nat} (m : String × Tree) (ms : List (String × Tree))
    (hm : IsReadAt depth m.2) (hms : ∀ n ∈ ms, IsReadAt depth n.2) {c : Cursor} {fuel : Nat} {rest : List Char}
    (h : c.rest = Tree.memberChars depth m ++ (Tree.membersTail depth ms ++ (Tree.lineChars outer ++ '\x7d' :: rest)))
    (hfuel : 3 * ((Tree.memberChars depth m).length + (Tree.membersTail depth ms).length) + 2 ≤ fuel) :
    ∃ members next, readMember fuel c = (members, some next) ∧ members.Shows (m :: ms) ∧ next.rest = rest := by
  obtain ⟨fuel, rfl⟩ : ∃ left, fuel = left + 2 := ⟨fuel - 2, by omega⟩
  -- along the members, as along the items of a list
  induction ms generalizing m c fuel with
  | nil =>
      have hlength := Tree.length_chars_le_memberChars depth m
      obtain ⟨keyFinish, keySettled, settled, d, next, hmember, hshows, hnext⟩ :=
        hm.exists_readMember (.inr rfl) h (by omega : _ ≤ fuel + 1)
      obtain ⟨finish, last, hclose, hlast⟩ :=
        exists_readMembers_close fuel false (fun _ => Tree.isBlank_of_mem_lineChars) hnext
      rw [hclose] at hmember
      exact ⟨_, last, hmember, .member _ _ _ _ hshows (.close finish), hlast⟩
  | cons n ms ih =>
      have hlength := Tree.length_chars_le_memberChars depth m
      rw [List.forall_mem_cons] at hms
      rw [Tree.membersTail] at h hfuel
      simp only [List.cons_append, List.append_assoc, List.length_cons, List.length_append] at h hfuel
      obtain ⟨keyFinish, keySettled, settled, d, next, hmember, hshows, hnext⟩ :=
        hm.exists_readMember (.inl rfl) h (by omega : _ ≤ fuel + 1)
      obtain ⟨place, hcomma⟩ := exists_readMembers_comma fuel hnext
      obtain ⟨left, rfl⟩ : ∃ left, fuel = left + 2 := ⟨fuel - 2, by omega⟩
      obtain ⟨members, last, hmembers, hrests, hlast⟩ := ih n hms.1 hms.2 (c := ⟨_, place⟩) rfl left (by omega)
      rw [hcomma, hmembers] at hmember
      exact ⟨_, last, hmember, .member _ _ _ _ hshows hrests, hlast⟩

theorem isReadAt_object {depth : Nat} {members : List (String × Tree)}
    (h : ∀ m ∈ members, IsReadAt (depth + 1) m.2) : IsReadAt depth (.object members) := by
  intro c fuel blanks rest hblanks hc _ hfuel
  have hopen {xs : List Char} {place : Place} (hskip : c.skipBlanks = ⟨'\x7b' :: xs, place⟩) (fuel : Nat) :
      readValue (fuel + 1) c =
        (.object place (readMembers fuel true c.skipBlanks.step).1, (readMembers fuel true c.skipBlanks.step).2) := by
    rw [readValue_eq fuel (congrArg Cursor.rest hskip) (by decide), hskip]
    rfl
  cases members with
  | nil =>
      rw [Tree.chars_object_nil] at hc hfuel
      obtain ⟨left, rfl⟩ : ∃ left, fuel = left + 2 := ⟨fuel - 2, by simp at hfuel; omega⟩
      obtain ⟨place, hskip⟩ := Cursor.exists_skipBlanks hblanks rfl hc
      obtain ⟨finish, next, hclose, hnext⟩ := exists_readMembers_close left true (List.forall_mem_nil _)
        (Cursor.rest_step (congrArg Cursor.rest hskip))
      exact ⟨_, next, by rw [hopen hskip, hclose], .object place (.close finish), hnext⟩
  | cons m ms =>
      rw [List.forall_mem_cons] at h
      rw [Tree.chars_object_cons] at hc hfuel
      simp only [List.cons_append, List.append_assoc, List.nil_append, List.length_cons, List.length_append] at hc hfuel
      obtain ⟨left, rfl⟩ : ∃ left, fuel = left + 2 := ⟨fuel - 2, by omega⟩
      obtain ⟨place, hskip⟩ := Cursor.exists_skipBlanks hblanks rfl hc
      have hstep := Cursor.rest_step (congrArg Cursor.rest hskip)
      obtain ⟨quote, hquote⟩ := Cursor.exists_skipBlanks (fun _ => Tree.isBlank_of_mem_lineChars) rfl hstep
      obtain ⟨members, next, hread, hshows, hnext⟩ := exists_readMember m ms h.1 h.2
        (Cursor.rest_step (congrArg Cursor.rest hquote)) (by omega : _ ≤ left)
      -- the reader of members passes the blanks and the opening quote before the first member
      have hfirst : readMembers (left + 1) true c.skipBlanks.step = (members, some next) := by
        rw [readMembers.eq_def, ← hread, hquote]
        rfl
      exact ⟨_, next, by rw [hopen hskip, hfirst], .object place hshows, hnext⟩

/-! ### Whole texts -/

/-- A tree whose numbers are natural numbers of 64 bits is read back. -/
theorem Tree.IsWhole.isReadAt {t : Tree} (h : t.IsWhole) (depth : Nat) : IsReadAt depth t := by
  -- on the tree, for all depths at once: what is inside a list or an object stands one deeper
  induction h generalizing depth with
  | null => exact isReadAt_null depth
  | boolean b => exact isReadAt_boolean depth b
  | natural small => exact isReadAt_natural depth small
  | string s => exact isReadAt_string depth s
  | list all ih => exact isReadAt_list fun t ht => ⟨all t ht, ih t ht (depth + 1)⟩
  | object all ih => exact isReadAt_object fun m hm => ih m hm (depth + 1)

/-- The text of a tree as a file is read as a document that shows the tree, with nothing left over. -/
theorem Tree.IsWhole.exists_ofText {t : Tree} (h : t.IsWhole) :
    ∃ d, Source.ofText (t.pretty ++ "\n") = ⟨d, none⟩ ∧ d.Shows t := by
  have hchars : (Cursor.ofText (t.pretty ++ "\n")).rest = t.chars 0 ++ ['\n'] := String.toList_append
  obtain ⟨d, next, hread, hshows, hnext⟩ := h.isReadAt 0 (Cursor.ofText (t.pretty ++ "\n"))
    (3 * (Cursor.ofText (t.pretty ++ "\n")).rest.length + 3) [] ['\n'] (List.forall_mem_nil _) hchars
    (isNumberEnd_cons (.inr rfl) []) (by rw [hchars, List.length_append]; omega)
  have hskip : next.skipBlanks.rest = [] := by
    rw [Cursor.skipBlanks, Cursor.skipWhile, hnext]
    rfl
  refine ⟨d, ?_, hshows⟩
  rw [Source.ofText, hread]
  simp [hskip]

end QueryGate.Json
