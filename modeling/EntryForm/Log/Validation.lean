import EntryForm.Log
import EntryForm.Rules.Form

/-!
# Log — validation

The events that tell of validating a form: one for each payload that is checked, a warning for
each list of nested items that is too deep, and one at the end.
-/

namespace EntryForm

/-- Each widget of a form with its path, in document order. -/
def Form.placedWidgets (f : Form) : List (Path × Widget) :=
  f.pages.zipIdx.flatMap fun (page, i) =>
    (page.sections.getD []).zipIdx.flatMap fun (s, j) =>
      s.widgetList.zipIdx.map fun (w, k) =>
        (((Path.root.item "pages" i).item "sections" j).item "widgets" k, w)

namespace Log

/-- The payload of a widget is checked. -/
def payloadChecked (id : String) (kind : Kind) : Event :=
  { level := .trace
    source := "form_spec::validate::node"
    message := "validating widget payload"
    fields := [("widget", id), ("kind", kind.name)] }

/-- The warning for a violation, if it is a list of nested items that is too deep. -/
def depthWarning? (v : Violation) : Option Event :=
  match v.cause with
  | .tooDeep limit =>
      some
        { level := .warn
          source := "form_spec::validate::payload"
          message := "checklist nesting ceiling reached"
          fields := [("path", v.path.render), ("max_depth", toString limit)] }
  | _ => none

/-- A form is validated. -/
def formValidated (id : String) (widgets violations : Nat) : Event :=
  { level := .debug
    source := "form_spec::validate"
    message := "validated form definition"
    fields :=
      [("form", id), ("widgets", toString widgets), ("violations", toString violations)] }

end Log

/-- The events of validating the widget at `p`. -/
def Widget.events (o : Options) (p : Path) (w : Widget) : List Log.Event :=
  match w.body with
  | .payload data =>
      Log.payloadChecked w.id data.kind ::
        (w.body.violations o p).filterMap Log.depthWarning?
  | _ => []

/-- The events of validating a form. -/
def Form.events (o : Options) (f : Form) : List Log.Event :=
  (f.placedWidgets.flatMap fun (p, w) => w.events o p) ++
    [Log.formValidated f.id f.widgets.length (f.violations o).length]

end EntryForm
