import EntryForm.Rules.Form
import EntryForm.Proofs.Text.Grammar

/-!
# Proofs — well-formed forms

What a form has to be, record by record, with neither paths nor reports: `Form.WellFormed o f`.
Names are texts of `Proofs.Text.Grammar`, bounds are compared as numbers, times as minutes of the
day, and names that have to differ make a list without duplicates.

The items of a nested checklist are taken together, whatever their level
(`NestedItem.everyItem`): they nest no deeper than the ceiling (`NestedItem.levels`), and their
keys differ across all levels.
-/

namespace EntryForm
open Text

/-! ### Settings and bounds -/

/-- A type that a field or a column may have. -/
def FieldType (s : String) : Prop :=
  s ∈ ["text", "textarea", "number", "integer", "decimal", "date", "datetime", "time", "email",
    "phone", "select", "boolean"]

/-- A number that is given is at least `low`. -/
def AtLeast (low : Int) (value : Option Count) : Prop := ∀ n ∈ value, low ≤ n.toInt

/-- Two numbers, where both are given, are in order. -/
def InOrder (low high : Option Count) : Prop := ∀ l ∈ low, ∀ h ∈ high, l.toInt ≤ h.toInt

/-- A text that is given has at most `limit` characters. -/
def AtMostChars (limit : Nat) (value : Option String) : Prop := ∀ s ∈ value, s.length ≤ limit

/-- The text is a regular expression. -/
def Compiles (text : String) : Prop := Pattern.defect? text = none

/-! ### Payloads -/

structure Field.WellFormed (f : Field) : Prop where
  type : FieldType f.fieldType
  /-- Comparison of doubles: a bound that is not a number is in order with any other. -/
  bounds : ∀ low ∈ f.min, ∀ high ∈ f.max, ¬ high < low
  minLength : AtLeast 0 f.minLength
  maxLength : AtLeast 0 f.maxLength
  lengths : InOrder f.minLength f.maxLength
  pattern : ∀ text ∈ f.pattern, Compiles text
  options : f.fieldType = "select" → f.options ≠ []

structure GroupField.WellFormed (g : GroupField) : Prop where
  id : Identifier g.id
  field : g.field.WellFormed

structure Group.WellFormed (g : Group) : Prop where
  layout : g.layout ∈ ["vertical", "horizontal", "grid"]
  fields : ∀ f ∈ g.fields, f.WellFormed
  distinct : (g.fields.map GroupField.id).Nodup

structure TableColumn.WellFormed (c : TableColumn) : Prop where
  id : Identifier c.id
  label : Legible c.label
  type : FieldType c.fieldType

structure Table.WellFormed (t : Table) : Prop where
  nonempty : t.columns ≠ []
  columns : ∀ c ∈ t.columns, c.WellFormed
  distinct : (t.columns.map TableColumn.id).Nodup
  minRows : AtLeast 0 t.minRows
  maxRows : AtLeast 1 t.maxRows
  rows : InOrder t.minRows t.maxRows

structure GridRow.WellFormed (r : GridRow) : Prop where
  id : Identifier r.id
  label : Legible r.label

structure GridColumn.WellFormed (c : GridColumn) : Prop where
  id : Identifier c.id
  label : Legible c.label
  type : FieldType c.fieldType

structure Grid.WellFormed (g : Grid) : Prop where
  rows : ∀ r ∈ g.rows, r.WellFormed
  rowsDistinct : (g.rows.map GridRow.id).Nodup
  columns : ∀ c ∈ g.columns, c.WellFormed
  columnsDistinct : (g.columns.map GridColumn.id).Nodup

structure ChecklistItem.WellFormed (i : ChecklistItem) : Prop where
  key : Identifier i.key
  label : Legible i.label

structure Checklist.WellFormed (c : Checklist) : Prop where
  nonempty : c.items ≠ []
  items : ∀ i ∈ c.items, i.WellFormed
  distinct : (c.items.map ChecklistItem.key).Nodup

structure Header.WellFormed (h : Header) : Prop where
  title : AtMostChars 200 h.title
  subtitle : AtMostChars 200 h.subtitle
  documentNumber : AtMostChars 200 h.documentNumber
  revision : AtMostChars 200 h.revision
  effectiveDate : AtMostChars 200 h.effectiveDate
  logoUrl : AtMostChars 2048 h.logoUrl

structure Signature.WellFormed (s : Signature) : Prop where
  width : 1 ≤ s.width.toInt ∧ s.width.toInt ≤ 1000
  height : 1 ≤ s.height.toInt ∧ s.height.toInt ≤ 500
  type : s.signatureType ∈ ["draw", "upload", "both"]

structure Notes.WellFormed (n : Notes) : Prop where
  content : Legible n.content
  style : n.style ∈ ["info", "warning", "note", "instruction"]

structure Choice.WellFormed (c : Choice) : Prop where
  value : Legible c.value
  label : Legible c.label

/-- The choices of a radio or checkbox group. -/
structure Choice.WellFormedList (options : List Choice) : Prop where
  nonempty : options ≠ []
  choices : ∀ c ∈ options, c.WellFormed
  distinct : (options.map Choice.value).Nodup

structure RadioGroup.WellFormed (r : RadioGroup) : Prop where
  options : Choice.WellFormedList r.options
  orientation : r.orientation ∈ ["horizontal", "vertical"]
  defaultValue : ∀ value ∈ r.defaultValue, value ∈ r.options.map Choice.value

structure CheckboxGroup.WellFormed (c : CheckboxGroup) : Prop where
  options : Choice.WellFormedList c.options
  orientation : c.orientation ∈ ["horizontal", "vertical", "grid"]
  minSelections : AtLeast 0 c.minSelections
  maxSelections : AtLeast 1 c.maxSelections
  selections : InOrder c.minSelections c.maxSelections
  gridColumns : 1 ≤ c.gridColumns.toInt ∧ c.gridColumns.toInt ≤ 6

structure TimePicker.WellFormed (t : TimePicker) : Prop where
  format : t.format ∈ ["12h", "24h"]
  stepMinutes : 1 ≤ t.stepMinutes.toInt ∧ t.stepMinutes.toInt ≤ 60
  minTime : ∀ s ∈ t.minTime, ∃ n, NamesMinute s n
  maxTime : ∀ s ∈ t.maxTime, ∃ n, NamesMinute s n
  defaultTime : ∀ s ∈ t.defaultTime, (∃ n, NamesMinute s n) ∨ NamesSecond s
  order : ∀ s ∈ t.minTime, ∀ s' ∈ t.maxTime, ∀ n n', NamesMinute s n → NamesMinute s' n' → n ≤ n'

/-! ### Nested checklists -/

mutual

/-- The item and every item below it, in document order. -/
def NestedItem.selfAndBelow : NestedItem → List NestedItem
  | .mk key label itemType required children =>
      .mk key label itemType required children :: NestedItem.everyItem children

/-- The items of a list and every item below them, in document order. -/
def NestedItem.everyItem : List NestedItem → List NestedItem
  | [] => []
  | item :: rest => item.selfAndBelow ++ NestedItem.everyItem rest

end

mutual

/-- The number of levels that an item makes with the items below it. -/
def NestedItem.height : NestedItem → Nat
  | .mk _ _ _ _ children => NestedItem.levels children + 1

/-- The number of levels of a list of items. -/
def NestedItem.levels : List NestedItem → Nat
  | [] => 0
  | item :: rest => max item.height (NestedItem.levels rest)

end

/-- What is asked of an item by itself. -/
structure NestedItem.WellFormed (i : NestedItem) : Prop where
  key : Identifier i.key
  label : Legible i.label
  type : i.itemType ∈ ["checkbox", "text", "select", "radio"]

structure NestedChecklist.WellFormed (ceiling : Nat) (c : NestedChecklist) : Prop where
  nonempty : c.items ≠ []
  numberingStyle : c.numberingStyle ∈ ["decimal", "alpha", "roman", "none"]
  indentSize : 0 ≤ c.indentSize.toInt ∧ c.indentSize.toInt ≤ 100
  depth : NestedItem.levels c.items ≤ ceiling
  items : ∀ i ∈ NestedItem.everyItem c.items, i.WellFormed
  distinct : ((NestedItem.everyItem c.items).map NestedItem.key).Nodup

/-! ### Widgets, sections, pages and forms -/

/-- The rules of the payload's kind. -/
def Payload.WellFormed (o : Options) : Payload → Prop
  | .field data => data.WellFormed
  | .group data => data.WellFormed
  | .table data => data.WellFormed
  | .grid data => data.WellFormed
  | .checklist data => data.WellFormed
  | .formHeader data => data.WellFormed
  | .signature data => data.WellFormed
  | .notes data => data.WellFormed
  | .nestedChecklist data => data.WellFormed o.ceiling
  | .radioGroup data => data.WellFormed
  | .checkboxGroup data => data.WellFormed
  | .timePicker data => data.WellFormed

structure Widget.WellFormed (o : Options) (w : Widget) : Prop where
  id : Identifier w.id
  body : ∃ data, w.body = .payload data ∧ data.WellFormed o
  foreign : o.exclusivity = .strict → w.foreign = []

structure Section.WellFormed (o : Options) (s : Section) : Prop where
  id : Identifier s.id
  title : Legible s.title
  widgets : ∃ widgets, s.widgets = some widgets ∧ ∀ w ∈ widgets, w.WellFormed o

structure Page.WellFormed (o : Options) (p : Page) : Prop where
  id : Identifier p.id
  title : Legible p.title
  sections : ∃ sections, p.sections = some sections ∧ (∀ s ∈ sections, s.WellFormed o) ∧
    (sections.map Section.id).Nodup

structure Form.WellFormed (o : Options) (f : Form) : Prop where
  id : Identifier f.id
  title : Legible f.title
  version : Legible f.version
  locales : ∀ locales ∈ f.locales, ∀ l ∈ locales, Locale l
  tableName : ∀ storage ∈ f.storage, ∀ name ∈ storage.tableName, Identifier name
  nonempty : f.pages ≠ []
  pages : ∀ p ∈ f.pages, p.WellFormed o
  pagesDistinct : (f.pages.map Page.id).Nodup
  widgetsDistinct : (f.widgets.map Widget.id).Nodup

end EntryForm
