import EntryForm.Form
import EntryForm.Rules.NestedChecklist
import EntryForm.Rules.Unique

/-!
# Rules — forms

What is asked of a form and its pages, sections and widgets.  A walk over a node lists the
violations below it, and adds the identifiers of the widgets it passes to those met before.
`Form.violations` is the walk over the whole form, followed by the widget identifiers that occur
more than once.
-/

namespace EntryForm

open Rules

/-- Whether a payload that does not belong to a widget's type is a defect. -/
inductive Exclusivity where
  | strict | lenient
  deriving DecidableEq, Repr

/-- The name in a document. -/
def Exclusivity.name : Exclusivity → String
  | strict => "strict"
  | lenient => "lenient"

/-- How a form is validated. -/
structure Options where
  /-- The deepest level of nested checklist items that is inspected. -/
  ceiling : Nat := 32
  exclusivity : Exclusivity := .strict
  deriving DecidableEq, Repr

/-- The violations of a walk, and the widget identifiers met so far. -/
structure Walk where
  violations : List Violation
  met : List Occurrence

/-! ### Widgets -/

/-- The rules of the payload's kind. -/
def Payload.violations (o : Options) (p : Path) : Payload → List Violation
  | .field data => data.violations p
  | .group data => data.violations p
  | .table data => data.violations p
  | .grid data => data.violations p
  | .checklist data => data.violations p
  | .formHeader data => data.violations p
  | .signature data => data.violations p
  | .notes data => data.violations p
  | .nestedChecklist data => data.violations o.ceiling p
  | .radioGroup data => data.violations p
  | .checkboxGroup data => data.violations p
  | .timePicker data => data.violations p

/-- The body of the widget at `p`: its type is known, its payload there and sound. -/
def Body.violations (o : Options) (p : Path) : Body → List Violation
  | .payload data => data.violations o (p.field data.kind.name)
  | .missing kind => [⟨p.field kind.name, .absentPayload kind⟩]
  | .unknown raw =>
      if raw.isEmpty then [⟨p.field "type", .empty "widget type"⟩]
      else [⟨p.field "type", .unknownType raw⟩]

/-- The payloads of the widget at `p` that do not belong to its type. -/
def Widget.foreignViolations (p : Path) (w : Widget) : List Violation :=
  w.foreign.map fun kind => ⟨p.field kind.name, .foreignPayload kind w.body.discriminator⟩

/-- The violations of the widget at `p`. -/
def Widget.violations (o : Options) (p : Path) (w : Widget) : List Violation :=
  identifier "widget id" w.id (p.field "id") ++
  w.body.violations o p ++
  match o.exclusivity with
  | .strict => w.foreignViolations p
  | .lenient => []

/-! ### Sections and pages -/

/-- Walks the widgets of the section at `p` from position `i` on. -/
def Widget.walkList (o : Options) (p : Path) : Nat → List Widget → List Occurrence → Walk
  | _, [], met => ⟨[], met⟩
  | i, w :: rest, met =>
      let q := p.item "widgets" i
      let others := Widget.walkList o p (i + 1) rest (met ++ [⟨w.id, q.field "id"⟩])
      ⟨w.violations o q ++ others.violations, others.met⟩

/-- Walks the section at `p`. -/
def Section.walk (o : Options) (p : Path) (s : Section) (met : List Occurrence) : Walk :=
  let own := identifier "section id" s.id (p.field "id") ++
    notBlank "section title" s.title (p.field "title")
  match s.widgets with
  | none => ⟨own ++ [⟨p.field "widgets", .undeclared "section" "widgets"⟩], met⟩
  | some widgets =>
      let below := Widget.walkList o p 0 widgets met
      ⟨own ++ below.violations, below.met⟩

/-- Walks the sections of the page at `p` from position `i` on, after sections with the
identifiers `seen`. -/
def Section.walkList (o : Options) (p : Path) :
    Nat → List String → List Section → List Occurrence → Walk
  | _, _, [], met => ⟨[], met⟩
  | i, seen, s :: rest, met =>
      let q := p.item "sections" i
      let first := s.walk o q met
      let others := Section.walkList o p (i + 1) (s.id :: seen) rest first.met
      ⟨notRepeated "section id" s.id (seen.contains s.id) (q.field "id") ++
        first.violations ++ others.violations, others.met⟩

/-- Walks the page at `p`. -/
def Page.walk (o : Options) (p : Path) (page : Page) (met : List Occurrence) : Walk :=
  let own := identifier "page id" page.id (p.field "id") ++
    notBlank "page title" page.title (p.field "title")
  match page.sections with
  | none => ⟨own ++ [⟨p.field "sections", .undeclared "page" "sections"⟩], met⟩
  | some sections =>
      let below := Section.walkList o p 0 [] sections met
      ⟨own ++ below.violations, below.met⟩

/-- Walks the pages of a form from position `i` on, after pages with the identifiers `seen`. -/
def Page.walkList (o : Options) : Nat → List String → List Page → List Occurrence → Walk
  | _, _, [], met => ⟨[], met⟩
  | i, seen, page :: rest, met =>
      let q := Path.root.item "pages" i
      let first := page.walk o q met
      let others := Page.walkList o (i + 1) (page.id :: seen) rest first.met
      ⟨notRepeated "page id" page.id (seen.contains page.id) (q.field "id") ++
        first.violations ++ others.violations, others.met⟩

/-! ### Forms -/

/-- The locales of a form have the shape of a locale. -/
def Form.localeViolations (locales : List String) : List Violation :=
  locales.zipIdx.flatMap fun (locale, i) =>
    reportIf (!Text.isLocale locale) (Path.root.item "locales" i) (.malformedLocale locale)

/-- The rules of a form that do not concern its pages. -/
def Form.ownViolations (f : Form) : List Violation :=
  identifier "form id" f.id (Path.root.field "id") ++
  notBlank "form title" f.title (Path.root.field "title") ++
  notBlank "form version" f.version (Path.root.field "version") ++
  Form.localeViolations (f.locales.getD []) ++
  (match f.storage.bind Storage.tableName with
   | none => []
   | some name =>
       identifier "storage table name" name ((Path.root.field "storage").field "table_name")) ++
  reportIf f.pages.isEmpty (Path.root.field "pages") (.emptyCollection .pages)

/-- Walks a form. -/
def Form.walk (o : Options) (f : Form) : Walk :=
  let below := Page.walkList o 0 [] f.pages []
  ⟨f.ownViolations ++ below.violations, below.met⟩

/-- Every violation of a form. -/
def Form.violations (o : Options) (f : Form) : List Violation :=
  let w := f.walk o
  w.violations ++ repeatedWidgets w.met

/-- The outcome of validating a form. -/
def Form.report (o : Options) (f : Form) : Report :=
  let found := f.violations o
  ⟨found.isEmpty, found.map Violation.finding⟩

end EntryForm
