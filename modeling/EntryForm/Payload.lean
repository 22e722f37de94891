import EntryForm.Kind

/-!
# Payloads

The data that belongs to each kind of widget.  Settings with a fixed set of values are kept as
text and counts as signed integers, so that a value outside its domain is a defect the rules
report and not a document that cannot be read.

Each record has its default values where a document leaves a key out.
-/

namespace EntryForm

/-- A count as a document holds it: a signed 64-bit integer. -/
abbrev Count := Int64

/-- A single input. -/
structure Field where
  fieldType : String := "text"
  label : Option String := none
  required : Bool := false
  placeholder : Option String := none
  defaultValue : Option String := none
  unit : Option String := none
  min : Option Float := none
  max : Option Float := none
  minLength : Option Count := none
  maxLength : Option Count := none
  pattern : Option String := none
  options : List String := []
  deriving BEq

/-- A field of a group, with its name in the group. -/
structure GroupField where
  id : String := ""
  field : Field := {}
  deriving BEq

/-- Several fields laid out together. -/
structure Group where
  layout : String := "vertical"
  fields : List GroupField := []
  deriving BEq

/-- A column of a table. -/
structure TableColumn where
  id : String := ""
  label : String := ""
  fieldType : String := "text"
  required : Bool := false
  deriving DecidableEq

/-- Rows that repeat, over fixed columns. -/
structure Table where
  columns : List TableColumn := []
  minRows : Option Count := none
  maxRows : Option Count := none
  allowAddRows : Bool := true
  deriving DecidableEq

/-- A row of a grid. -/
structure GridRow where
  id : String := ""
  label : String := ""
  deriving DecidableEq

/-- A column of a grid. -/
structure GridColumn where
  id : String := ""
  label : String := ""
  fieldType : String := "text"
  deriving DecidableEq

/-- Fixed rows crossed with fixed columns. -/
structure Grid where
  rows : List GridRow := []
  columns : List GridColumn := []
  deriving DecidableEq

/-- An item of a flat checklist. -/
structure ChecklistItem where
  key : String := ""
  label : String := ""
  deriving DecidableEq

/-- A flat list of items to tick off. -/
structure Checklist where
  items : List ChecklistItem := []
  deriving DecidableEq

/-- The block printed above a form. -/
structure Header where
  title : Option String := none
  subtitle : Option String := none
  documentNumber : Option String := none
  revision : Option String := none
  effectiveDate : Option String := none
  logoUrl : Option String := none
  deriving DecidableEq

/-- A place to sign. -/
structure Signature where
  label : Option String := none
  width : Count := 400
  height : Count := 150
  signatureType : String := "draw"
  requireDate : Bool := false
  deriving DecidableEq

/-- Text shown to the person who fills in the form. -/
structure Notes where
  content : String := ""
  style : String := "info"
  deriving DecidableEq

/-- An item of a nested checklist, with the items below it. -/
inductive NestedItem where
  | mk (key label itemType : String) (required : Bool) (children : List NestedItem)
  deriving BEq

namespace NestedItem

def key : NestedItem → String
  | mk key _ _ _ _ => key

def label : NestedItem → String
  | mk _ label _ _ _ => label

def itemType : NestedItem → String
  | mk _ _ itemType _ _ => itemType

def required : NestedItem → Bool
  | mk _ _ _ required _ => required

def children : NestedItem → List NestedItem
  | mk _ _ _ _ children => children

/-- An optional checkbox without items below it. -/
def leaf (key label : String) : NestedItem := mk key label "checkbox" false []

/-- The item with other items below it. -/
def withChildren : NestedItem → List NestedItem → NestedItem
  | mk key label itemType required _, children => mk key label itemType required children

end NestedItem

/-- A checklist whose items nest to any depth. -/
structure NestedChecklist where
  items : List NestedItem := []
  numberingStyle : String := "decimal"
  indentSize : Count := 20
  showNumbers : Bool := true
  deriving BEq

/-- A value to choose, and how it is shown. -/
structure Choice where
  value : String := ""
  label : String := ""
  deriving DecidableEq

/-- Choices of which one is taken. -/
structure RadioGroup where
  options : List Choice := []
  orientation : String := "vertical"
  defaultValue : Option String := none
  deriving DecidableEq

/-- Choices of which several are taken. -/
structure CheckboxGroup where
  options : List Choice := []
  orientation : String := "vertical"
  minSelections : Option Count := none
  maxSelections : Option Count := none
  gridColumns : Count := 2
  deriving DecidableEq

/-- An input for a time of day. -/
structure TimePicker where
  format : String := "24h"
  stepMinutes : Count := 15
  minTime : Option String := none
  maxTime : Option String := none
  defaultTime : Option String := none
  deriving DecidableEq

/-- The data of a widget, by its kind. -/
inductive Payload where
  | field (data : Field)
  | group (data : Group)
  | table (data : Table)
  | grid (data : Grid)
  | checklist (data : Checklist)
  | formHeader (data : Header)
  | signature (data : Signature)
  | notes (data : Notes)
  | nestedChecklist (data : NestedChecklist)
  | radioGroup (data : RadioGroup)
  | checkboxGroup (data : CheckboxGroup)
  | timePicker (data : TimePicker)
  deriving BEq

/-- The kind a payload is of. -/
def Payload.kind : Payload → Kind
  | field _ => .field
  | group _ => .group
  | table _ => .table
  | grid _ => .grid
  | checklist _ => .checklist
  | formHeader _ => .formHeader
  | signature _ => .signature
  | notes _ => .notes
  | nestedChecklist _ => .nestedChecklist
  | radioGroup _ => .radioGroup
  | checkboxGroup _ => .checkboxGroup
  | timePicker _ => .timePicker

end EntryForm
