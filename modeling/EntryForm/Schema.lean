import EntryForm.Wire.Shape
import EntryForm.Wire.Encode
import EntryForm.Text.Pieces

/-!
# The schema of documents

The JSON Schema of form documents.  It follows from the shapes that documents are read by: a
record is an object of its slots, and a slot's default is what a record with all its defaults is
written with.  Keys stand in the order of their names.
-/

namespace EntryForm

open Wire

/-- A record as it is written. -/
def Wire.Record.encode : (r : Record) → r.Result → Json
  | .form, d => Form.toJson d
  | .submission, d => Submission.toJson d
  | .storage, d => Storage.toJson d
  | .page, d => Page.toJson d
  | .section, d => Section.toJson d
  | .widget, d => Widget.toJson d
  | .field, d => Field.toJson d
  | .groupField, d => GroupField.toJson d
  | .group, d => Group.toJson d
  | .tableColumn, d => TableColumn.toJson d
  | .table, d => Table.toJson d
  | .gridRow, d => GridRow.toJson d
  | .gridColumn, d => GridColumn.toJson d
  | .grid, d => Grid.toJson d
  | .checklistItem, d => ChecklistItem.toJson d
  | .checklist, d => Checklist.toJson d
  | .header, d => Header.toJson d
  | .signature, d => Signature.toJson d
  | .notes, d => Notes.toJson d
  | .nestedItem, d => NestedItem.toJson d
  | .nestedChecklist, d => NestedChecklist.toJson d
  | .choice, d => Choice.toJson d
  | .radioGroup, d => RadioGroup.toJson d
  | .checkboxGroup, d => CheckboxGroup.toJson d
  | .timePicker, d => TimePicker.toJson d

namespace Schema

/-- The name of a record in the schema. -/
def name : Record → String
  | .form => "FormSpec"
  | .submission => "FormOptions"
  | .storage => "StorageConfig"
  | .page => "PageSpec"
  | .section => "SectionSpec"
  | .widget => "WidgetSpec"
  | .field => "FieldPayload"
  | .groupField => "GroupField"
  | .group => "GroupPayload"
  | .tableColumn => "TableColumn"
  | .table => "TablePayload"
  | .gridRow => "GridRow"
  | .gridColumn => "GridColumn"
  | .grid => "GridPayload"
  | .checklistItem => "ChecklistItem"
  | .checklist => "ChecklistPayload"
  | .header => "FormHeaderPayload"
  | .signature => "SignaturePayload"
  | .notes => "NotesPayload"
  | .nestedItem => "HierarchicalChecklistItem"
  | .nestedChecklist => "HierarchicalChecklistPayload"
  | .choice => "ChoiceOption"
  | .radioGroup => "RadioGroupPayload"
  | .checkboxGroup => "CheckboxGroupPayload"
  | .timePicker => "TimePickerPayload"

/-- What the schema says about a record.  A field of a group is described as the field. -/
def description? : Record → Option String
  | .form => some "Top-level form definition."
  | .submission => some "Submission behaviour toggles carried with the form."
  | .storage => some "Where submitted data for this form is stored."
  | .page => some "A page of the form."
  | .section => some "A titled block of widgets within a page."
  | .widget => some "Wire shape of a widget: a discriminator plus one optional slot per kind."
  | .field | .groupField => some "A single data-entry input."
  | .group => some "Several fields laid out together."
  | .table => some "Repeating rows with a fixed set of columns."
  | .grid => some "Fixed rows crossed with fixed columns."
  | .checklist => some "Flat list of items to tick off."
  | .header => some "Document header block printed above the form."
  | .notes => some "Free text shown to the person filling in the form."
  | .nestedChecklist => some "Checklist whose items may nest to any depth."
  | .choice => some "One selectable value of a radio or checkbox group."
  | _ => none

/-- The records that have a definition of their own: all but the form. -/
def defined : List Record := [
  .submission, .storage, .page, .section, .widget, .field, .groupField, .group, .tableColumn,
  .table, .gridRow, .gridColumn, .grid, .checklistItem, .checklist, .header, .signature, .notes,
  .nestedItem, .nestedChecklist, .choice, .radioGroup, .checkboxGroup, .timePicker]

/-- The keyword for the type of a value, which may also be null. -/
def typed (type : String) (nullable : Bool) : String × Json :=
  ("type", if nullable then .arr [.str type, .str "null"] else .str type)

/-- The keywords for a value of a shape. -/
def keywords (nullable : Bool) : Shape → List (String × Json)
  | .text => [typed "string" nullable]
  | .flag => [typed "boolean" nullable]
  | .count => [("format", .str "int64"), typed "integer" nullable]
  | .number => [("format", .str "double"), typed "number" nullable]
  | .labels => [("additionalProperties", .obj [typed "string" false]), typed "object" nullable]
  | .free => [("additionalProperties", .bool true), typed "object" nullable]
  | .list item => [("items", .obj (keywords false item)), typed "array" nullable]
  | .record r =>
      let reference := ("$ref", Json.str ("#/$defs/" ++ name r))
      if nullable then [("anyOf", .arr [.obj [reference], .obj [typed "null" false]])]
      else [reference]

/-- The properties for slots, with the values that `blank` has for them as defaults. -/
def properties {σ : Type} (blank : Json) (slots : List (Slot σ)) : List (String × Json) :=
  slots.map fun s =>
    let default := (blank.get? s.key).map fun v => ("default", v)
    (s.key, .obj (default.toList ++ keywords s.nullable s.shape))

/-- The properties of a record, those of the record that is written flat in it included. -/
def recordProperties (r : Record) : List (String × Json) :=
  let blank := r.encode (r.finish r.blank)
  let flat :=
    match r.inlined with
    | none => []
    | some inner => properties blank inner.record.slots
  sortEntries (properties blank r.slots ++ flat)

/-- The keywords for a record. -/
def recordKeywords (r : Record) : List (String × Json) :=
  present "description" .str (description? r) ++
    [("properties", .obj (recordProperties r)), typed "object" false]

/-- The definitions of the records. -/
def definitions : List (String × Json) :=
  sortEntries (defined.map fun r => (name r, .obj (recordKeywords r)))

/-- The schema of form documents. -/
def document : Json :=
  .obj (sortEntries ([
    ("$schema", .str "https://json-schema.org/draft/2020-12/schema"),
    ("title", .str (name .form)),
    ("$defs", .obj definitions)] ++ recordKeywords .form))

end Schema

/-! ### Pointers -/

/-- A step of a pointer, its marks for a tilde and a slash replaced. -/
def unescapeStep : List Char → List Char
  | '~' :: '1' :: rest => '/' :: unescapeStep rest
  | '~' :: '0' :: rest => '~' :: unescapeStep rest
  | c :: rest => c :: unescapeStep rest
  | [] => []

/-- The position a step of a pointer names: digits, of which the first is zero only alone. -/
def position? (step : List Char) : Option Nat :=
  match step with
  | [] => none
  | '0' :: _ :: _ => none
  | cs =>
      if cs.all Char.isDigit then some (cs.foldl (fun n c => n * 10 + (c.toNat - 48)) 0)
      else none

/-- The value one step down. -/
def Json.step? (v : Json) (step : List Char) : Option Json :=
  match v with
  | .obj entries => entries.lookup (String.ofList (unescapeStep step))
  | .arr items => (position? step).bind fun i => items[i]?
  | _ => none

/-- The part of a value that a JSON pointer points to. -/
def Json.pointer? (v : Json) (pointer : String) : Option Json :=
  match pointer.toList with
  | [] => some v
  | '/' :: steps => (Text.pieces '/' steps).foldlM Json.step? v
  | _ => none

end EntryForm
