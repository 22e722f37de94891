/-!
# Widget kinds

The twelve kinds of widget, each with the name it has in a document.  The name is both the value
of a widget's `type` and the key of the payload that belongs to it.
-/

namespace EntryForm

/-- What a widget is. -/
inductive Kind where
  | field | group | table | grid | checklist | formHeader | signature | notes
  | nestedChecklist | radioGroup | checkboxGroup | timePicker
  deriving DecidableEq, Repr

namespace Kind

/-- Every kind, in the order of the payload slots of a widget. -/
def all : List Kind :=
  [.field, .group, .table, .grid, .checklist, .formHeader, .signature, .notes,
    .nestedChecklist, .radioGroup, .checkboxGroup, .timePicker]

/-- The name in a document. -/
def name : Kind → String
  | field => "field"
  | group => "group"
  | table => "table"
  | grid => "grid"
  | checklist => "checklist"
  | formHeader => "form_header"
  | signature => "signature"
  | notes => "notes"
  | nestedChecklist => "hierarchical_checklist"
  | radioGroup => "radio_group"
  | checkboxGroup => "checkbox_group"
  | timePicker => "time_picker"

/-- The kind of that name. -/
def ofName? (raw : String) : Option Kind := all.find? (·.name == raw)

/-- Every kind is listed. -/
theorem mem_all (k : Kind) : k ∈ all := by cases k <;> decide

/-- A kind is found again by its name. -/
theorem ofName?_name (k : Kind) : ofName? k.name = some k := by cases k <;> decide

theorem name_injective {k l : Kind} (h : k.name = l.name) : k = l :=
  Option.some.inj (by rw [← ofName?_name k, h, ofName?_name])

end Kind

end EntryForm
