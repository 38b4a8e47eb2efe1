import QueryGate.Proofs.Compile.Outcome
import QueryGate.Proofs.Plan.Noise
/-!
Dropped parts of a plan have no influence on what it comes to. Which parts are dropped depends on the plan itself, since
a field is known or not by the resource and by the joins that are accepted; the edits that bring in such parts or take
them out change neither, so a plan and what it is edited to fail for the same reason, or have the same accepted plan and
the same statement.
-/
set_option autoImplicit false

namespace QueryGate.Compile

open Json Plan Statement

/-- A text names a field that a plan can use: one of the resource that it is about, or one of the target of a join that
it is accepted with. -/
def NamesField (catalog : Catalog) (v : Value) (text : String) : Prop :=
  ∃ resource base, catalog.resolve (textOfMember v "resource") = .ok (resource, base)
    ∧ IsSelectable catalog.contract base (readPlan v).joins (.ofText text)

/-- In a plan whose resource is found, the texts that name fields are those of references which validation keeps. -/
theorem namesField_iff {catalog : Catalog} {v : Value} {resource : String} {base : Contract.ResourceInfo}
    (h : catalog.resolve (textOfMember v "resource") = .ok (resource, base)) (text : String) :
    NamesField catalog v text ↔
      isValidRef catalog.contract base (validJoins catalog.contract base (readPlan v).joins) (.ofText text) = true := by
  rw [isValidRef_validJoins_iff]
  constructor
  · rintro ⟨resource', base', hresolve, hselectable⟩
    rw [h, Except.ok.injEq, Prod.mk.injEq] at hresolve
    obtain ⟨rfl, rfl⟩ := hresolve
    exact hselectable
  · exact fun hselectable => ⟨resource, base, h, hselectable⟩

/-- Plans that are read alike are compiled alike, if what their references are tested with knows their own fields. -/
theorem compileRaw_eq_of_readAlike {catalog : Catalog} {v w : Value} (h : ∀ valid : FieldRef → Bool,
    (∀ text, valid (.ofText text) = true → NamesField catalog v text) → ReadAlike valid v w) :
    compileRaw catalog (readPlan w) = compileRaw catalog (readPlan v) := by
  have hvalidate : validate catalog (readPlan w) = validate catalog (readPlan v) := by
    have hresource (v : Value) : (readPlan v).resource = textOfMember v "resource" := rfl
    rw [validate_eq, validate_eq, hresource, hresource, ← (h (fun _ => false) nofun).resource]
    cases hresolve : catalog.resolve (textOfMember v "resource") with
    | error e => rfl
    | ok found =>
        obtain ⟨resource, base⟩ := found
        have halike := h (isValidRef catalog.contract base (validJoins catalog.contract base (readPlan v).joins))
          fun text hvalid => (namesField_iff hresolve text).2 hvalid
        simp only [halike.keptPlan_eq resource]
  rw [compileRaw, compileRaw, hvalidate]

/-- So they come to the same: to the same error, or to the same accepted plan and the same statement. -/
theorem compileValue_eq_of_readAlike {catalog : Catalog} {v w : Value} (hobject : v.isObject = true)
    (h : ∀ valid : FieldRef → Bool,
      (∀ text, valid (.ofText text) = true → NamesField catalog v text) → ReadAlike valid v w) :
    compileValue catalog w = compileValue catalog v := by
  have hraw := compileRaw_eq_of_readAlike h
  have hobject' : w.isObject = true := (h (fun _ => false) nofun).object ▸ hobject
  cases v with
  | object members =>
      cases w with
      | object members' => exact hraw
      | _ => cases hobject'
  | _ => cases hobject

/-- A plan that is edited in parts which are dropped comes to the same: to the same error, or to the same accepted plan
and the same statement with the same parameters. The edits may be any number, of any kind and at any places. -/
theorem compileValue_eq_of_edits (catalog : Catalog) (v w : Value)
    (h : Relation.ReflTransGen (NoiseEdit (NamesField catalog v)) v w) :
    compileValue catalog w = compileValue catalog v := by
  rcases h.cases_head with rfl | ⟨u, hedit, -⟩
  · rfl
  · exact compileValue_eq_of_readAlike hedit.isObject fun valid hknown => readAlike_of_edits hknown h

/-! ## Books on their shelves -/

/-- A plan for books, with the lists that noise can get into. -/
def booksPlan (joins select sort filters : List Value) : Value :=
  .object [("joins", .list joins), ("resource", .string "books"), ("select", .list select), ("sort", .list sort),
    ("where", .list filters)]

/-- A request for a relation. -/
def requestFor (relation : String) : Value := .object [("resource", .string relation)]

/-- A filter or a sort key with a field. -/
def entryFor (field : String) : Value := .object [("field", .string field)]

/-- A plan for the rooms of books on shelves, with a second request that leads nowhere. -/
def roomPlan : Value :=
  booksPlan [requestFor "Shelf", requestFor "Author"] [.string "Shelf.room"] [] [entryFor "Shelf.room"]

/-- The same plan with a kind for its first request, a third request, a field of the target of that and an order by it,
a filter that is a text and one on a field that there is not. -/
def noisyRoomPlan : Value :=
  booksPlan [.object [("kind", .string "left"), ("resource", .string "Shelf")], requestFor "Author", requestFor "Book"]
    [.string "Book.id", .string "Shelf.room"] [entryFor "Book.id"]
    [.string "room", entryFor "Shelf.room", entryFor "Shelf.floor"]

/-- The plan with its noise and a note compiles, and to what it compiles to without. -/
theorem compileValue_noisyRoomPlan :
    (∃ result, compileValue (.ofContract Contract.Library.contract) roomPlan = .ok result)
      ∧ compileValue (.ofContract Contract.Library.contract) (noisyRoomPlan.put "note" (.boolean true)) =
          compileValue (.ofContract Contract.Library.contract) roomPlan := by
  have hresource : (Catalog.ofContract Contract.Library.contract).resolve (textOfMember roomPlan "resource") =
      .ok ("Book", Contract.Library.book) := rfl
  -- the relation of the third request is declared, but requested too late
  have hlate : ¬NamesField (.ofContract Contract.Library.contract) roomPlan "Book.id" := fun h =>
    Bool.false_ne_true ((namesField_iff hresource _).1 h)
  have hfloor : ¬NamesField (.ofContract Contract.Library.contract) roomPlan "Shelf.floor" := fun h =>
    Bool.false_ne_true ((namesField_iff hresource _).1 h)
  refine ⟨⟨_, rfl⟩, compileValue_eq_of_edits _ _ _ ?_⟩
  generalize NamesField (.ofContract Contract.Library.contract) roomPlan = known at hlate hfloor ⊢
  have hkindUnread : "kind" ∉ ["resource"] := by decide
  have hkind (select sort filters : List Value) : NoiseEdit known
      (booksPlan [requestFor "Shelf", requestFor "Author"] select sort filters)
      (booksPlan [.object [("kind", .string "left"), ("resource", .string "Shelf")], requestFor "Author"]
        select sort filters) :=
    @NoiseEdit.entryMember known _ _ _ "joins" ["resource"] [] _ (by decide) rfl (.put rfl hkindUnread (.string "left"))
  have hrequest (first second : Value) (select sort filters : List Value) : NoiseEdit known
      (booksPlan [first, second] select sort filters)
      (booksPlan [first, second, requestFor "Book"] select sort filters) :=
    @NoiseEdit.join known _ [first, second] rfl (Nat.le_refl 2) (requestFor "Book")
  have hfield (joins sort filters : List Value) : NoiseEdit known
      (booksPlan joins [.string "Shelf.room"] sort filters)
      (booksPlan joins [.string "Book.id", .string "Shelf.room"] sort filters) :=
    @NoiseEdit.field known _ (.string "Book.id") [] _ rfl nofun hlate
  have htext (joins select sort filters : List Value) : NoiseEdit known
      (booksPlan joins select sort filters) (booksPlan joins select sort (.string "room" :: filters)) :=
    @NoiseEdit.entry known _ (.string "room") "where" [] _ (.inl rfl) rfl nofun
  have hfilter (joins select sort : List Value) (first second : Value) : NoiseEdit known
      (booksPlan joins select sort [first, second])
      (booksPlan joins select sort [first, second, entryFor "Shelf.floor"]) :=
    @NoiseEdit.entry known _ (entryFor "Shelf.floor") "where" [first, second] [] (.inl rfl) rfl fun _ => hfloor
  have hkey (joins select filters : List Value) : NoiseEdit known
      (booksPlan joins select [] filters) (booksPlan joins select [entryFor "Book.id"] filters) :=
    @NoiseEdit.entry known _ (entryFor "Book.id") "sort" [] [] (.inr rfl) rfl fun _ => hlate
  have hnote : NoiseEdit known noisyRoomPlan (noisyRoomPlan.put "note" (.boolean true)) :=
    .member (.put rfl (by decide) (.boolean true))
  exact (((((Relation.ReflTransGen.single (hkind ..)).tail (hrequest ..)).tail (hfield ..)).tail (htext ..)).tail
    (hfilter ..)).tail (hkey ..) |>.tail hnote

end QueryGate.Compile
