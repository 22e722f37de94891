import EntryForm.Payload
import EntryForm.Json.Value

/-!
# Forms

A form has pages, a page sections, a section widgets.  A widget's body holds at most the payload
that its type names; payloads of other kinds are only remembered by their kind.

`Form.widgets` lists the widgets of a form in document order.
-/

namespace EntryForm

/-- What a widget's type and payloads come to. -/
inductive Body where
  /-- A known type with its payload. -/
  | payload (data : Payload)
  /-- A known type without its payload. -/
  | missing (kind : Kind)
  /-- A type that names no kind, as written; empty where there is none. -/
  | unknown (raw : String)
  deriving BEq

namespace Body

/-- The type as the document has it. -/
def discriminator : Body → String
  | payload data => data.kind.name
  | missing kind => kind.name
  | unknown raw => raw

/-- The kind that the type names. -/
def kind? : Body → Option Kind
  | payload data => some data.kind
  | missing kind => some kind
  | unknown _ => none

/-- The payload that belongs to the type. -/
def payload? : Body → Option Payload
  | payload data => some data
  | _ => none

end Body

/-- An interactive element of a section. -/
structure Widget where
  id : String
  title : Option String := none
  help : Option String := none
  visibleIf : Option String := none
  body : Body
  /-- The kinds of the payloads that do not belong to the widget's type. -/
  foreign : List Kind := []
  deriving BEq

/-- A titled block of widgets. -/
structure Section where
  id : String := ""
  title : String := ""
  widgets : Option (List Widget) := none
  deriving BEq

/-- A page of a form. -/
structure Page where
  id : String := ""
  title : String := ""
  sections : Option (List Section) := none
  deriving BEq

/-- What may be done with a form's answers before they are final. -/
structure Submission where
  allowDrafts : Bool := false
  allowMultipleSubmissions : Bool := false
  requireSignature : Bool := false
  deriving DecidableEq

/-- Where answers are kept. -/
structure Storage where
  tableName : Option String := none
  schema : Option String := none
  deriving DecidableEq

/-- A form definition. -/
structure Form where
  id : String := ""
  title : String := ""
  version : String := ""
  description : Option String := none
  locales : Option (List String) := none
  /-- Texts by name, in the order of their names. -/
  labels : Option (List (String × String)) := none
  /-- Free data by name, in the order of the names. -/
  metadata : Option (List (String × Json)) := none
  options : Option Submission := none
  storage : Option Storage := none
  pages : List Page := []
  deriving BEq

/-- The widgets of a section, in order. -/
def Section.widgetList (s : Section) : List Widget := s.widgets.getD []

/-- The widgets of a page, in document order. -/
def Page.widgetList (p : Page) : List Widget := (p.sections.getD []).flatMap Section.widgetList

/-- The widgets of a form, in document order. -/
def Form.widgets (f : Form) : List Widget := f.pages.flatMap Page.widgetList

end EntryForm
