import QueryGate.Contract.Basic
import QueryGate.Json.Printer
import QueryGate.Json.Shape
/-!
Contracts as JSON documents: the shape in which they are read and the tree in which they are written. Names keep
the order of the text; a description that is missing, synonyms and relations that are empty are left out.
-/
set_option autoImplicit false

namespace QueryGate.Contract

open Json

/-! ## Reading -/

/-- The field types under their words. -/
def fieldTypes : List (String × FieldType) :=
  [.text, .number, .boolean, .timestamp, .identifier].map fun t => (t.word, t)

/-- The shape of a field type. -/
def fieldTypeShape : Shape FieldType :=
  .choice fieldTypes "one of `text`, `number`, `boolean`, `timestamp`, `identifier`"

/-- The shape of a join kind. -/
def joinKindShape : Shape JoinKind :=
  .choice ([.inner, .left].map fun k => (JoinKind.word k, k)) "`inner` or `left`"

/-- A field as far as it has been read. -/
structure FieldDraft where
  type : Option FieldType
  description : Option (Option String)

/-- The shape of a field. -/
def fieldShape : Shape FieldInfo :=
  Shape.record ⟨"struct FieldInfo",
    [Shape.field "type" FieldDraft.type (fun d x => { d with type := some x }) fieldTypeShape,
      Shape.field "description" FieldDraft.description (fun d x => { d with description := some x })
        (.optional .text)],
    ⟨none, none⟩,
    fun d =>
      match d.type with
      | none => .error "type"
      | some type => .ok ⟨type, d.description.getD none⟩⟩

/-- A relation as far as it has been read. -/
structure RelationDraft where
  kind : Option JoinKind
  localField : Option String
  targetResource : Option String
  targetField : Option String
  tableAlias : Option String

/-- The value of a field of a record, or the name of the field that is missing. -/
def required {α : Type} (name : String) : Option α → Except String α
  | some a => .ok a
  | none => .error name

/-- The shape of a relation. -/
def relationShape : Shape RelationInfo :=
  Shape.record ⟨"struct RelationInfo",
    [Shape.field "kind" RelationDraft.kind (fun d x => { d with kind := some x }) joinKindShape,
      Shape.field "localField" RelationDraft.localField (fun d x => { d with localField := some x }) .text,
      Shape.field "targetResource" RelationDraft.targetResource (fun d x => { d with targetResource := some x }) .text,
      Shape.field "targetField" RelationDraft.targetField (fun d x => { d with targetField := some x }) .text,
      Shape.field "alias" RelationDraft.tableAlias (fun d x => { d with tableAlias := some x }) .text],
    ⟨none, none, none, none, none⟩,
    fun d => do
      let localField ← required "localField" d.localField
      let targetResource ← required "targetResource" d.targetResource
      let targetField ← required "targetField" d.targetField
      let tableAlias ← required "alias" d.tableAlias
      .ok ⟨d.kind.getD .inner, localField, targetResource, targetField, tableAlias⟩⟩

/-- A resource as far as it has been read. -/
structure ResourceDraft where
  view : Option String
  description : Option (Option String)
  synonyms : Option (List String)
  fields : Option (List (String × FieldInfo))
  defaultSelect : Option (List String)
  filterable : Option Bool
  sortable : Option Bool
  relations : Option (List (String × RelationInfo))

/-- The shape of a resource. -/
def resourceShape : Shape ResourceInfo :=
  Shape.record ⟨"struct ResourceInfo",
    [Shape.field "view" ResourceDraft.view (fun d x => { d with view := some x }) .text,
      Shape.field "description" ResourceDraft.description (fun d x => { d with description := some x })
        (.optional .text),
      Shape.field "synonyms" ResourceDraft.synonyms (fun d x => { d with synonyms := some x }) (.listOf .text),
      Shape.field "fields" ResourceDraft.fields (fun d x => { d with fields := some x }) (.mapOf fieldShape),
      Shape.field "defaultSelect" ResourceDraft.defaultSelect (fun d x => { d with defaultSelect := some x })
        (.listOf .text),
      Shape.field "filterable" ResourceDraft.filterable (fun d x => { d with filterable := some x }) .truth,
      Shape.field "sortable" ResourceDraft.sortable (fun d x => { d with sortable := some x }) .truth,
      Shape.field "relations" ResourceDraft.relations (fun d x => { d with relations := some x })
        (.mapOf relationShape)],
    ⟨none, none, none, none, none, none, none, none⟩,
    fun d => do
      let view ← required "view" d.view
      let fields ← required "fields" d.fields
      .ok {
        view
        description := d.description.getD none
        synonyms := d.synonyms.getD []
        fields := .ofList fields
        defaultSelect := d.defaultSelect.getD []
        filterable := d.filterable.getD false
        sortable := d.sortable.getD false
        relations := .ofList (d.relations.getD []) }⟩

/-- The shape of a contract. -/
def shape : Shape Contract :=
  Shape.record ⟨"struct Contract",
    [Shape.field "resources" id (fun _ x => some x) (.mapOf resourceShape)],
    none,
    fun resources => (required "resources" resources).map fun rs => ⟨.ofList rs⟩⟩

/-- Reads a contract from its text. -/
def ofText (text : String) : Except Fault Contract := shape.readText text

/-! ## Writing -/

/-- A member of a document, if there is a value for it. -/
def optionalMember (name : String) : Option Tree → List (String × Tree)
  | some t => [(name, t)]
  | none => []

/-- A list of texts. -/
def textList (texts : List String) : Tree := .list (texts.map .string)

/-- The document of a field. -/
def FieldInfo.toTree (f : FieldInfo) : Tree :=
  .object (("type", .string f.type.word) :: optionalMember "description" (f.description.map .string))

/-- The document of a relation. -/
def RelationInfo.toTree (r : RelationInfo) : Tree :=
  .object [("kind", .string r.kind.word), ("localField", .string r.localField),
    ("targetResource", .string r.targetResource), ("targetField", .string r.targetField),
    ("alias", .string r.tableAlias)]

/-- The document of a resource. -/
def ResourceInfo.toTree (r : ResourceInfo) : Tree :=
  .object ([("view", .string r.view)]
    ++ optionalMember "description" (r.description.map .string)
    ++ optionalMember "synonyms" (if r.synonyms.isEmpty then none else some (textList r.synonyms))
    ++ [("fields", .object (r.fields.entries.map fun (n, f) => (n, f.toTree))),
      ("defaultSelect", textList r.defaultSelect),
      ("filterable", .boolean r.filterable),
      ("sortable", .boolean r.sortable)]
    ++ optionalMember "relations"
      (if r.relations.isEmpty then none
        else some (.object (r.relations.entries.map fun (n, rel) => (n, rel.toTree)))))

/-- The document of a contract. -/
def toTree (c : Contract) : Tree :=
  .object [("resources", .object (c.resources.entries.map fun (n, r) => (n, r.toTree)))]

end QueryGate.Contract
