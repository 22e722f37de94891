import EntryForm.Form

/-!
# Wire — shapes

The shapes of the values in a document, and for each record its slots: the keys it is written
under, in order, with their shapes and what each one sets.  A record is read by starting from its
default values (`Record.blank`) and putting the slots that are present; a slot that is nullable
may hold null, which leaves the default.

A field of a group is written flat: the keys of the field stand beside the identifier
(`Record.inlined`).  A widget is read as the texts it has and the payloads that stand under the
names of the kinds, from which `Draft.widget` makes the body.
-/

namespace EntryForm.Wire

/-- The records of a form document. -/
inductive Record where
  | form | submission | storage | page | section | widget
  | field | groupField | group | tableColumn | table | gridRow | gridColumn | grid
  | checklistItem | checklist | header | signature | notes | nestedItem | nestedChecklist
  | choice | radioGroup | checkboxGroup | timePicker
  deriving DecidableEq, Repr

/-- The shapes of values. -/
inductive Shape where
  | text
  | flag
  /-- A signed 64-bit integer. -/
  | count
  /-- A floating point number. -/
  | number
  /-- An object of texts. -/
  | labels
  /-- An object of any values. -/
  | free
  | list (item : Shape)
  | record (r : Record)
  deriving DecidableEq, Repr

/-- A widget while it is read: its type as written, and the payloads met. -/
structure WidgetDraft where
  id : String := ""
  type : String := ""
  title : Option String := none
  help : Option String := none
  visibleIf : Option String := none
  payloads : List Payload := []

/-- The payload of the kind that the type names is the body; the others are foreign. -/
def WidgetDraft.widget (d : WidgetDraft) : Widget where
  id := d.id
  title := d.title
  help := d.help
  visibleIf := d.visibleIf
  body :=
    match Kind.ofName? d.type with
    | none => .unknown d.type
    | some kind =>
        match d.payloads.find? (·.kind == kind) with
        | some data => .payload data
        | none => .missing kind
  foreign := Kind.all.filter fun kind => kind.name != d.type && d.payloads.any (·.kind == kind)

/-- What a record is while it is read. -/
abbrev Record.Draft : Record → Type
  | form => Form
  | submission => Submission
  | storage => Storage
  | page => Page
  | .section => Section
  | widget => WidgetDraft
  | field => Field
  | groupField => GroupField
  | group => Group
  | tableColumn => TableColumn
  | table => Table
  | gridRow => GridRow
  | gridColumn => GridColumn
  | grid => Grid
  | checklistItem => ChecklistItem
  | checklist => Checklist
  | header => Header
  | signature => Signature
  | notes => Notes
  | nestedItem => NestedItem
  | nestedChecklist => NestedChecklist
  | choice => Choice
  | radioGroup => RadioGroup
  | checkboxGroup => CheckboxGroup
  | timePicker => TimePicker

/-- What a record is once it is read. -/
abbrev Record.Result : Record → Type
  | widget => Widget
  | r => r.Draft

/-- The record that a draft has become. -/
def Record.finish : (r : Record) → r.Draft → r.Result
  | widget, d => WidgetDraft.widget d
  | form, d | submission, d | storage, d | page, d | .section, d | field, d | groupField, d
  | group, d | tableColumn, d | table, d | gridRow, d | gridColumn, d | grid, d
  | checklistItem, d | checklist, d | header, d | signature, d | notes, d | nestedItem, d
  | nestedChecklist, d | choice, d | radioGroup, d | checkboxGroup, d | timePicker, d => d

/-- The values of a shape. -/
abbrev Shape.Value : Shape → Type
  | text => String
  | flag => Bool
  | count => Count
  | number => Float
  | labels => List (String × String)
  | free => List (String × Json)
  | list item => List item.Value
  | record r => r.Result

/-- A key of a record. -/
structure Slot (σ : Type) where
  key : String
  shape : Shape
  /-- Null may stand for the absent value. -/
  nullable : Bool
  put : shape.Value → σ → σ

/-- A key that must have a value of its shape. -/
def Slot.plain {σ : Type} (key : String) (shape : Shape) (put : shape.Value → σ → σ) : Slot σ :=
  ⟨key, shape, false, put⟩

/-- A key whose value may be null. -/
def Slot.nullish {σ : Type} (key : String) (shape : Shape) (put : shape.Value → σ → σ) : Slot σ :=
  ⟨key, shape, true, put⟩

/-- The slot of a widget for the payloads of one kind. -/
def payloadSlot (kind : Kind) (r : Record) (wrap : r.Result → Payload) : Slot WidgetDraft :=
  .nullish kind.name (.record r) fun data d => { d with payloads := d.payloads ++ [wrap data] }

/-- The name of a record in messages. -/
def Record.title : Record → String
  | form => "struct FormSpec"
  | submission => "struct FormOptions"
  | storage => "struct StorageConfig"
  | page => "struct PageSpec"
  | .section => "struct SectionSpec"
  | widget => "struct WireWidget"
  | field => "struct FieldPayload"
  | groupField => "struct GroupField"
  | group => "struct GroupPayload"
  | tableColumn => "struct TableColumn"
  | table => "struct TablePayload"
  | gridRow => "struct GridRow"
  | gridColumn => "struct GridColumn"
  | grid => "struct GridPayload"
  | checklistItem => "struct ChecklistItem"
  | checklist => "struct ChecklistPayload"
  | header => "struct FormHeaderPayload"
  | signature => "struct SignaturePayload"
  | notes => "struct NotesPayload"
  | nestedItem => "struct HierarchicalChecklistItem"
  | nestedChecklist => "struct HierarchicalChecklistPayload"
  | choice => "struct ChoiceOption"
  | radioGroup => "struct RadioGroupPayload"
  | checkboxGroup => "struct CheckboxGroupPayload"
  | timePicker => "struct TimePickerPayload"

/-- A record with all its defaults. -/
def Record.blank : (r : Record) → r.Draft
  | form => {}
  | submission => {}
  | storage => {}
  | page => {}
  | .section => {}
  | widget => {}
  | field => {}
  | groupField => {}
  | group => {}
  | tableColumn => {}
  | table => {}
  | gridRow => {}
  | gridColumn => {}
  | grid => {}
  | checklistItem => {}
  | checklist => {}
  | header => {}
  | signature => {}
  | notes => {}
  | nestedItem => NestedItem.leaf "" ""
  | nestedChecklist => {}
  | choice => {}
  | radioGroup => {}
  | checkboxGroup => {}
  | timePicker => {}

/-- The keys of a record, in the order in which they are written. -/
def Record.slots : (r : Record) → List (Slot r.Draft)
  | form => [
      .plain "id" .text fun v d => { d with id := v },
      .plain "title" .text fun v d => { d with title := v },
      .plain "version" .text fun v d => { d with version := v },
      .nullish "description" .text fun v d => { d with description := some v },
      .nullish "locales" (.list .text) fun v d => { d with locales := some v },
      .nullish "labels" .labels fun v d => { d with labels := some v },
      .nullish "metadata" .free fun v d => { d with metadata := some v },
      .nullish "options" (.record .submission) fun v d => { d with options := some v },
      .nullish "storage" (.record .storage) fun v d => { d with storage := some v },
      .plain "pages" (.list (.record .page)) fun v d => { d with pages := v }]
  | submission => [
      .plain "allow_drafts" .flag fun v d => { d with allowDrafts := v },
      .plain "allow_multiple_submissions" .flag fun v d => { d with allowMultipleSubmissions := v },
      .plain "require_signature" .flag fun v d => { d with requireSignature := v }]
  | storage => [
      .nullish "table_name" .text fun v d => { d with tableName := some v },
      .nullish "schema" .text fun v d => { d with schema := some v }]
  | page => [
      .plain "id" .text fun v d => { d with id := v },
      .plain "title" .text fun v d => { d with title := v },
      .nullish "sections" (.list (.record .section)) fun v d => { d with sections := some v }]
  | .section => [
      .plain "id" .text fun v d => { d with id := v },
      .plain "title" .text fun v d => { d with title := v },
      .nullish "widgets" (.list (.record .widget)) fun v d => { d with widgets := some v }]
  | widget => [
      .plain "id" .text fun v d => { d with id := v },
      .plain "type" .text fun v d => { d with type := v },
      .nullish "title" .text fun v d => { d with title := some v },
      .nullish "help" .text fun v d => { d with help := some v },
      .nullish "visible_if" .text fun v d => { d with visibleIf := some v },
      payloadSlot .field .field .field,
      payloadSlot .group .group .group,
      payloadSlot .table .table .table,
      payloadSlot .grid .grid .grid,
      payloadSlot .checklist .checklist .checklist,
      payloadSlot .formHeader .header .formHeader,
      payloadSlot .signature .signature .signature,
      payloadSlot .notes .notes .notes,
      payloadSlot .nestedChecklist .nestedChecklist .nestedChecklist,
      payloadSlot .radioGroup .radioGroup .radioGroup,
      payloadSlot .checkboxGroup .checkboxGroup .checkboxGroup,
      payloadSlot .timePicker .timePicker .timePicker]
  | field => [
      .plain "field_type" .text fun v d => { d with fieldType := v },
      .nullish "label" .text fun v d => { d with label := some v },
      .plain "required" .flag fun v d => { d with required := v },
      .nullish "placeholder" .text fun v d => { d with placeholder := some v },
      .nullish "default_value" .text fun v d => { d with defaultValue := some v },
      .nullish "unit" .text fun v d => { d with unit := some v },
      .nullish "min" .number fun v d => { d with min := some v },
      .nullish "max" .number fun v d => { d with max := some v },
      .nullish "min_length" .count fun v d => { d with minLength := some v },
      .nullish "max_length" .count fun v d => { d with maxLength := some v },
      .nullish "pattern" .text fun v d => { d with pattern := some v },
      .plain "options" (.list .text) fun v d => { d with options := v }]
  | groupField => [
      .plain "id" .text fun v d => { d with id := v }]
  | group => [
      .plain "layout" .text fun v d => { d with layout := v },
      .plain "fields" (.list (.record .groupField)) fun v d => { d with fields := v }]
  | tableColumn => [
      .plain "id" .text fun v d => { d with id := v },
      .plain "label" .text fun v d => { d with label := v },
      .plain "field_type" .text fun v d => { d with fieldType := v },
      .plain "required" .flag fun v d => { d with required := v }]
  | table => [
      .plain "columns" (.list (.record .tableColumn)) fun v d => { d with columns := v },
      .nullish "min_rows" .count fun v d => { d with minRows := some v },
      .nullish "max_rows" .count fun v d => { d with maxRows := some v },
      .plain "allow_add_rows" .flag fun v d => { d with allowAddRows := v }]
  | gridRow => [
      .plain "id" .text fun v d => { d with id := v },
      .plain "label" .text fun v d => { d with label := v }]
  | gridColumn => [
      .plain "id" .text fun v d => { d with id := v },
      .plain "label" .text fun v d => { d with label := v },
      .plain "field_type" .text fun v d => { d with fieldType := v }]
  | grid => [
      .plain "rows" (.list (.record .gridRow)) fun v d => { d with rows := v },
      .plain "columns" (.list (.record .gridColumn)) fun v d => { d with columns := v }]
  | checklistItem => [
      .plain "key" .text fun v d => { d with key := v },
      .plain "label" .text fun v d => { d with label := v }]
  | checklist => [
      .plain "items" (.list (.record .checklistItem)) fun v d => { d with items := v }]
  | header => [
      .nullish "title" .text fun v d => { d with title := some v },
      .nullish "subtitle" .text fun v d => { d with subtitle := some v },
      .nullish "document_number" .text fun v d => { d with documentNumber := some v },
      .nullish "revision" .text fun v d => { d with revision := some v },
      .nullish "effective_date" .text fun v d => { d with effectiveDate := some v },
      .nullish "logo_url" .text fun v d => { d with logoUrl := some v }]
  | signature => [
      .nullish "label" .text fun v d => { d with label := some v },
      .plain "signature_width" .count fun v d => { d with width := v },
      .plain "signature_height" .count fun v d => { d with height := v },
      .plain "signature_type" .text fun v d => { d with signatureType := v },
      .plain "require_date" .flag fun v d => { d with requireDate := v }]
  | notes => [
      .plain "content" .text fun v d => { d with content := v },
      .plain "style" .text fun v d => { d with style := v }]
  | nestedItem => [
      .plain "key" .text fun v d => .mk v d.label d.itemType d.required d.children,
      .plain "label" .text fun v d => .mk d.key v d.itemType d.required d.children,
      .plain "type" .text fun v d => .mk d.key d.label v d.required d.children,
      .plain "required" .flag fun v d => .mk d.key d.label d.itemType v d.children,
      .plain "children" (.list (.record .nestedItem)) fun v d => d.withChildren v]
  | nestedChecklist => [
      .plain "items" (.list (.record .nestedItem)) fun v d => { d with items := v },
      .plain "numbering_style" .text fun v d => { d with numberingStyle := v },
      .plain "indent_size" .count fun v d => { d with indentSize := v },
      .plain "show_numbers" .flag fun v d => { d with showNumbers := v }]
  | choice => [
      .plain "value" .text fun v d => { d with value := v },
      .plain "label" .text fun v d => { d with label := v }]
  | radioGroup => [
      .plain "options" (.list (.record .choice)) fun v d => { d with options := v },
      .plain "orientation" .text fun v d => { d with orientation := v },
      .nullish "default_value" .text fun v d => { d with defaultValue := some v }]
  | checkboxGroup => [
      .plain "options" (.list (.record .choice)) fun v d => { d with options := v },
      .plain "orientation" .text fun v d => { d with orientation := v },
      .nullish "min_selections" .count fun v d => { d with minSelections := some v },
      .nullish "max_selections" .count fun v d => { d with maxSelections := some v },
      .plain "grid_columns" .count fun v d => { d with gridColumns := v }]
  | timePicker => [
      .plain "format" .text fun v d => { d with format := v },
      .plain "step_minutes" .count fun v d => { d with stepMinutes := v },
      .nullish "min_time" .text fun v d => { d with minTime := some v },
      .nullish "max_time" .text fun v d => { d with maxTime := some v },
      .nullish "default_time" .text fun v d => { d with defaultTime := some v }]

/-- A record whose keys stand among those of another. -/
structure Inlined (σ : Type) where
  record : Record
  put : record.Result → σ → σ

/-- The record that is written flat within another, if there is one. -/
def Record.inlined : (r : Record) → Option (Inlined r.Draft)
  | groupField => some ⟨.field, fun f d => { d with field := f }⟩
  | _ => none

end EntryForm.Wire
