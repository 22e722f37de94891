import EntryForm.Form

/-!
# Wire — encoding

Each record as an object, its keys in the order of its slots.  An absent value has no entry; nor
have the options of a field and the items below a nested item when there are none.  Every other
value is written, defaults included.  A widget is written with the payload that belongs to its
type; payloads of other kinds are gone.
-/

namespace EntryForm

namespace Wire

/-- The entry of a value that may be absent. -/
def present {α : Type} (key : String) (write : α → Json) : Option α → List (String × Json)
  | none => []
  | some x => [(key, write x)]

/-- The entry of a list that is left out when it is empty. -/
def nonempty {α : Type} (key : String) (write : α → Json) : List α → List (String × Json)
  | [] => []
  | xs => [(key, .arr (xs.map write))]

/-- A count as an integer. -/
def ofCount (n : Count) : Json := .int n.toInt

/-- A list of texts. -/
def ofTexts (xs : List String) : Json := .arr (xs.map .str)

end Wire

open Wire

def Field.entries (f : Field) : List (String × Json) :=
  [("field_type", .str f.fieldType)] ++
  present "label" .str f.label ++
  [("required", .bool f.required)] ++
  present "placeholder" .str f.placeholder ++
  present "default_value" .str f.defaultValue ++
  present "unit" .str f.unit ++
  present "min" .float f.min ++
  present "max" .float f.max ++
  present "min_length" ofCount f.minLength ++
  present "max_length" ofCount f.maxLength ++
  present "pattern" .str f.pattern ++
  nonempty "options" .str f.options

def Field.toJson (f : Field) : Json := .obj f.entries

def GroupField.toJson (f : GroupField) : Json := .obj (("id", .str f.id) :: f.field.entries)

def Group.toJson (g : Group) : Json :=
  .obj [("layout", .str g.layout), ("fields", .arr (g.fields.map GroupField.toJson))]

def TableColumn.toJson (c : TableColumn) : Json :=
  .obj [("id", .str c.id), ("label", .str c.label), ("field_type", .str c.fieldType),
    ("required", .bool c.required)]

def Table.toJson (t : Table) : Json :=
  .obj ([("columns", .arr (t.columns.map TableColumn.toJson))] ++
    present "min_rows" ofCount t.minRows ++
    present "max_rows" ofCount t.maxRows ++
    [("allow_add_rows", .bool t.allowAddRows)])

def GridRow.toJson (r : GridRow) : Json := .obj [("id", .str r.id), ("label", .str r.label)]

def GridColumn.toJson (c : GridColumn) : Json :=
  .obj [("id", .str c.id), ("label", .str c.label), ("field_type", .str c.fieldType)]

def Grid.toJson (g : Grid) : Json :=
  .obj [("rows", .arr (g.rows.map GridRow.toJson)),
    ("columns", .arr (g.columns.map GridColumn.toJson))]

def ChecklistItem.toJson (i : ChecklistItem) : Json :=
  .obj [("key", .str i.key), ("label", .str i.label)]

def Checklist.toJson (c : Checklist) : Json :=
  .obj [("items", .arr (c.items.map ChecklistItem.toJson))]

def Header.toJson (h : Header) : Json :=
  .obj (present "title" .str h.title ++
    present "subtitle" .str h.subtitle ++
    present "document_number" .str h.documentNumber ++
    present "revision" .str h.revision ++
    present "effective_date" .str h.effectiveDate ++
    present "logo_url" .str h.logoUrl)

def Signature.toJson (s : Signature) : Json :=
  .obj (present "label" .str s.label ++
    [("signature_width", ofCount s.width), ("signature_height", ofCount s.height),
      ("signature_type", .str s.signatureType), ("require_date", .bool s.requireDate)])

def Notes.toJson (n : Notes) : Json :=
  .obj [("content", .str n.content), ("style", .str n.style)]

mutual

def NestedItem.toJson : NestedItem → Json
  | .mk key label itemType required children =>
      .obj ([("key", .str key), ("label", .str label), ("type", .str itemType),
        ("required", .bool required)] ++
        if children.isEmpty then [] else [("children", .arr (NestedItem.listToJson children))])

def NestedItem.listToJson : List NestedItem → List Json
  | [] => []
  | item :: rest => item.toJson :: NestedItem.listToJson rest

end

def NestedChecklist.toJson (c : NestedChecklist) : Json :=
  .obj [("items", .arr (NestedItem.listToJson c.items)),
    ("numbering_style", .str c.numberingStyle), ("indent_size", ofCount c.indentSize),
    ("show_numbers", .bool c.showNumbers)]

def Choice.toJson (c : Choice) : Json := .obj [("value", .str c.value), ("label", .str c.label)]

def RadioGroup.toJson (r : RadioGroup) : Json :=
  .obj ([("options", .arr (r.options.map Choice.toJson)), ("orientation", .str r.orientation)] ++
    present "default_value" .str r.defaultValue)

def CheckboxGroup.toJson (c : CheckboxGroup) : Json :=
  .obj ([("options", .arr (c.options.map Choice.toJson)), ("orientation", .str c.orientation)] ++
    present "min_selections" ofCount c.minSelections ++
    present "max_selections" ofCount c.maxSelections ++
    [("grid_columns", ofCount c.gridColumns)])

def TimePicker.toJson (t : TimePicker) : Json :=
  .obj ([("format", .str t.format), ("step_minutes", ofCount t.stepMinutes)] ++
    present "min_time" .str t.minTime ++
    present "max_time" .str t.maxTime ++
    present "default_time" .str t.defaultTime)

def Payload.toJson : Payload → Json
  | .field data => data.toJson
  | .group data => data.toJson
  | .table data => data.toJson
  | .grid data => data.toJson
  | .checklist data => data.toJson
  | .formHeader data => data.toJson
  | .signature data => data.toJson
  | .notes data => data.toJson
  | .nestedChecklist data => data.toJson
  | .radioGroup data => data.toJson
  | .checkboxGroup data => data.toJson
  | .timePicker data => data.toJson

/-- The payload of a body, under the name of its kind. -/
def Body.entries : Body → List (String × Json)
  | .payload data => [(data.kind.name, data.toJson)]
  | _ => []

def Widget.toJson (w : Widget) : Json :=
  .obj ([("id", .str w.id), ("type", .str w.body.discriminator)] ++
    present "title" .str w.title ++
    present "help" .str w.help ++
    present "visible_if" .str w.visibleIf ++
    w.body.entries)

def Section.toJson (s : Section) : Json :=
  .obj ([("id", .str s.id), ("title", .str s.title)] ++
    present "widgets" (fun ws => .arr (ws.map Widget.toJson)) s.widgets)

def Page.toJson (p : Page) : Json :=
  .obj ([("id", .str p.id), ("title", .str p.title)] ++
    present "sections" (fun ss => .arr (ss.map Section.toJson)) p.sections)

def Submission.toJson (s : Submission) : Json :=
  .obj [("allow_drafts", .bool s.allowDrafts),
    ("allow_multiple_submissions", .bool s.allowMultipleSubmissions),
    ("require_signature", .bool s.requireSignature)]

def Storage.toJson (s : Storage) : Json :=
  .obj (present "table_name" .str s.tableName ++ present "schema" .str s.schema)

def Form.toJson (f : Form) : Json :=
  .obj ([("id", .str f.id), ("title", .str f.title), ("version", .str f.version)] ++
    present "description" .str f.description ++
    present "locales" ofTexts f.locales ++
    present "labels" (fun ls => .obj (ls.map fun l => (l.1, .str l.2))) f.labels ++
    present "metadata" .obj f.metadata ++
    present "options" Submission.toJson f.options ++
    present "storage" Storage.toJson f.storage ++
    [("pages", .arr (f.pages.map Page.toJson))])

end EntryForm
