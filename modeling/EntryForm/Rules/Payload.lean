import EntryForm.Rules.Siblings
import EntryForm.Decimal.Style
import EntryForm.Pattern

/-!
# Rules — payloads

What is asked of each kind of payload.  The rules look at the payload alone and report at paths
below its own; only a nested checklist needs something more, the depth to which it is inspected.
-/

namespace EntryForm

open Rules

/-! ### The texts allowed for each setting -/

def Field.types : List String :=
  ["text", "textarea", "number", "integer", "decimal", "date", "datetime", "time", "email",
    "phone", "select", "boolean"]

def Group.layouts : List String := ["vertical", "horizontal", "grid"]

def Notes.styles : List String := ["info", "warning", "note", "instruction"]

def RadioGroup.orientations : List String := ["horizontal", "vertical"]

def CheckboxGroup.orientations : List String := ["horizontal", "vertical", "grid"]

def TimePicker.formats : List String := ["12h", "24h"]

def NestedChecklist.numberingStyles : List String := ["decimal", "alpha", "roman", "none"]

def NestedItem.types : List String := ["checkbox", "text", "select", "radio"]

def Signature.types : List String := ["draw", "upload", "both"]

/-- The most characters a text of a header may have. -/
def Header.textLimit : Nat := 200

/-- The most characters the address of a logo may have. -/
def Header.addressLimit : Nat := 2048

/-! ### The kinds without nesting -/

/-- The upper bound of a field's value is not below the lower one. -/
def Field.boundViolations (p : Path) (f : Field) : List Violation :=
  match f.min, f.max with
  | some low, some high =>
      reportIf (high < low) (p.field "max")
        (.crossedBounds "max" (Decimal.write .message high) "min" (Decimal.write .message low))
  | _, _ => []

/-- The lengths of a field are counts, in order. -/
def Field.lengthViolations (p : Path) (f : Field) : List Violation :=
  notNegative f.minLength (p.field "min_length") ++
  notNegative f.maxLength (p.field "max_length") ++
  if isCount f.minLength && isCount f.maxLength then
    ordered "max_length" f.maxLength "min_length" f.minLength (p.field "max_length")
  else []

/-- The pattern of a field is a regular expression. -/
def Field.patternViolations (p : Path) (f : Field) : List Violation :=
  match f.pattern with
  | none => []
  | some text =>
      match Pattern.defect? text with
      | none => []
      | some detail => [⟨p.field "pattern", .malformedPattern detail⟩]

def Field.violations (p : Path) (f : Field) : List Violation :=
  oneOf "field type" Field.types f.fieldType (p.field "field_type") ++
  f.boundViolations p ++
  f.lengthViolations p ++
  f.patternViolations p ++
  reportIf (f.fieldType == "select" && f.options.isEmpty) (p.field "options")
    (.emptyCollection .selectOptions)

def Group.violations (p : Path) (g : Group) : List Violation :=
  oneOf "group layout" Group.layouts g.layout (p.field "layout") ++
  siblings GroupField.id
    (fun i again f =>
      localIdentifier "group field id" f.id again ((p.item "fields" i).field "id") ++
      f.field.violations (p.item "fields" i))
    g.fields

def Table.violations (p : Path) (t : Table) : List Violation :=
  reportIf t.columns.isEmpty (p.field "columns") (.emptyCollection .columns) ++
  siblings TableColumn.id
    (fun i again c =>
      let q := p.item "columns" i
      localIdentifier "column id" c.id again (q.field "id") ++
      notBlank "column label" c.label (q.field "label") ++
      oneOf "column field type" Field.types c.fieldType (q.field "field_type"))
    t.columns ++
  notNegative t.minRows (p.field "min_rows") ++
  positive "max_rows" t.maxRows (p.field "max_rows") ++
  if isCount t.minRows && isPositive t.maxRows then
    ordered "max_rows" t.maxRows "min_rows" t.minRows (p.field "max_rows")
  else []

def Grid.violations (p : Path) (g : Grid) : List Violation :=
  siblings GridRow.id
    (fun i again r =>
      let q := p.item "rows" i
      localIdentifier "row id" r.id again (q.field "id") ++
      notBlank "row label" r.label (q.field "label"))
    g.rows ++
  siblings GridColumn.id
    (fun i again c =>
      let q := p.item "columns" i
      localIdentifier "column id" c.id again (q.field "id") ++
      notBlank "column label" c.label (q.field "label") ++
      oneOf "column field type" Field.types c.fieldType (q.field "field_type"))
    g.columns

def Checklist.violations (p : Path) (c : Checklist) : List Violation :=
  reportIf c.items.isEmpty (p.field "items") (.emptyCollection .checklistItems) ++
  siblings ChecklistItem.key
    (fun i again item =>
      let q := p.item "items" i
      localIdentifier "item key" item.key again (q.field "key") ++
      notBlank "item label" item.label (q.field "label"))
    c.items

def Header.violations (p : Path) (h : Header) : List Violation :=
  atMostChars textLimit h.title (p.field "title") ++
  atMostChars textLimit h.subtitle (p.field "subtitle") ++
  atMostChars textLimit h.documentNumber (p.field "document_number") ++
  atMostChars textLimit h.revision (p.field "revision") ++
  atMostChars textLimit h.effectiveDate (p.field "effective_date") ++
  atMostChars addressLimit h.logoUrl (p.field "logo_url")

def Signature.violations (p : Path) (s : Signature) : List Violation :=
  between 1 1000 s.width (p.field "signature_width") ++
  between 1 500 s.height (p.field "signature_height") ++
  oneOf "signature type" Signature.types s.signatureType (p.field "signature_type")

def Notes.violations (p : Path) (n : Notes) : List Violation :=
  notBlank "notes content" n.content (p.field "content") ++
  oneOf "notes style" Notes.styles n.style (p.field "style")

/-- The choices of a radio or checkbox group: at least one, each with a value of its own. -/
def Choice.listViolations (p : Path) (options : List Choice) : List Violation :=
  reportIf options.isEmpty p (.emptyCollection .choices) ++
  siblings Choice.value
    (fun i again c =>
      let q := p.index i
      (if Text.isBlank c.value then [⟨q.field "value", .empty "option value"⟩]
       else reportIf again (q.field "value") (.repeated "option value" c.value)) ++
      notBlank "option label" c.label (q.field "label"))
    options

def RadioGroup.violations (p : Path) (r : RadioGroup) : List Violation :=
  Choice.listViolations (p.field "options") r.options ++
  oneOf "orientation" RadioGroup.orientations r.orientation (p.field "orientation") ++
  match r.defaultValue with
  | none => []
  | some value =>
      reportIf (!r.options.any (·.value == value)) (p.field "default_value") (.notAnOption value)

def CheckboxGroup.violations (p : Path) (c : CheckboxGroup) : List Violation :=
  Choice.listViolations (p.field "options") c.options ++
  oneOf "orientation" CheckboxGroup.orientations c.orientation (p.field "orientation") ++
  notNegative c.minSelections (p.field "min_selections") ++
  positive "max_selections" c.maxSelections (p.field "max_selections") ++
  (if isCount c.minSelections && isPositive c.maxSelections then
    ordered "max_selections" c.maxSelections "min_selections" c.minSelections
      (p.field "max_selections")
  else []) ++
  between 1 6 c.gridColumns (p.field "grid_columns")

/-- Zero-padded times of day compare like the moments they name, so texts are compared. -/
def TimePicker.orderViolations (p : Path) (t : TimePicker) : List Violation :=
  match t.minTime, t.maxTime with
  | some earliest, some latest =>
      reportIf (latest < earliest) (p.field "max_time") (.crossedTimes latest earliest)
  | _, _ => []

def TimePicker.violations (p : Path) (t : TimePicker) : List Violation :=
  oneOf "time format" TimePicker.formats t.format (p.field "format") ++
  between 1 60 t.stepMinutes (p.field "step_minutes") ++
  timeOfDay Text.isClock "HH:MM" t.minTime (p.field "min_time") ++
  timeOfDay Text.isClock "HH:MM" t.maxTime (p.field "max_time") ++
  timeOfDay Text.isClockWithSeconds "HH:MM or HH:MM:SS" t.defaultTime (p.field "default_time") ++
  if absentOr Text.isClock t.minTime && absentOr Text.isClock t.maxTime then
    t.orderViolations p
  else []

end EntryForm
