import EntryForm.Rules.Form
import EntryForm.Proofs.Rules.Checks

/-!
# Proofs — Rules — walks

A walk carries the widget identifiers met so far and adds to them, but reports nothing on their
account.  So a walk splits into two functions of the node alone: its violations, and the
occurrences of widget identifiers below it.

* `Section.walk_eq`, `Page.walk_eq`, `Form.walk_eq`: a walk is this pair.  The violations below
  a node are the reports on its children as siblings.
* `Form.violations_eq`: the violations of a form, without walks.
* `Form.map_id_occurrences`: the identifiers a walk meets are those of the form's widgets.
-/

namespace EntryForm
open Rules

/-! ### Sections -/

/-- The widget identifiers of the section at `p`. -/
def Section.occurrences (p : Path) (s : Section) : List Occurrence :=
  s.widgetList.zipIdx.map fun e => ⟨e.1.id, (p.item "widgets" e.2).field "id"⟩

/-- The violations of the section at `p`. -/
def Section.violations (o : Options) (p : Path) (s : Section) : List Violation :=
  identifier "section id" s.id (p.field "id") ++
  notBlank "section title" s.title (p.field "title") ++
  match s.widgets with
  | none => [⟨p.field "widgets", .undeclared "section" "widgets"⟩]
  | some widgets => siblings Widget.id (fun i _ w => w.violations o (p.item "widgets" i)) widgets

/-- Walking widgets reports on each and meets their identifiers. -/
theorem Widget.walkList_eq (o : Options) (p : Path) (i : Nat) (seen : List String)
    (ws : List Widget) (met : List Occurrence) : Widget.walkList o p i ws met =
      ⟨siblingsFrom Widget.id (fun i _ w => w.violations o (p.item "widgets" i)) i seen ws,
        met ++ (ws.zipIdx i).map fun e => ⟨e.1.id, (p.item "widgets" e.2).field "id"⟩⟩ := by
  induction ws generalizing i seen met with
  | nil => simp [Widget.walkList, siblingsFrom]
  | cons w rest ih =>
      simp only [Widget.walkList, siblingsFrom, ih (i + 1) (w.id :: seen), List.zipIdx_cons,
        List.map_cons, List.append_assoc, List.singleton_append]

/-- Walking a section reports on it, whatever was met before. -/
theorem Section.walk_eq (o : Options) (p : Path) (s : Section) (met : List Occurrence) :
    s.walk o p met = ⟨s.violations o p, met ++ s.occurrences p⟩ := by
  rw [Section.walk, Section.violations, Section.occurrences, Section.widgetList]
  split
  · next h => simp [h]
  · next ws h => simp [h, Widget.walkList_eq o p 0 [], siblings]

/-! ### Pages -/

/-- The widget identifiers of the page at `p`. -/
def Page.occurrences (p : Path) (page : Page) : List Occurrence :=
  (page.sections.getD []).zipIdx.flatMap fun e => e.1.occurrences (p.item "sections" e.2)

/-- The violations of section `i` of the page at `p`. -/
def Section.siblingViolations (o : Options) (p : Path) (i : Nat) (again : Bool) (s : Section) :
    List Violation :=
  notRepeated "section id" s.id again ((p.item "sections" i).field "id") ++
    s.violations o (p.item "sections" i)

/-- The violations of the page at `p`. -/
def Page.violations (o : Options) (p : Path) (page : Page) : List Violation :=
  identifier "page id" page.id (p.field "id") ++
  notBlank "page title" page.title (p.field "title") ++
  match page.sections with
  | none => [⟨p.field "sections", .undeclared "page" "sections"⟩]
  | some sections => siblings Section.id (Section.siblingViolations o p) sections

/-- Walking sections reports on them as siblings and meets their identifiers. -/
theorem Section.walkList_eq (o : Options) (p : Path) (i : Nat) (seen : List String)
    (ss : List Section) (met : List Occurrence) : Section.walkList o p i seen ss met =
      ⟨siblingsFrom Section.id (Section.siblingViolations o p) i seen ss,
        met ++ (ss.zipIdx i).flatMap fun e => e.1.occurrences (p.item "sections" e.2)⟩ := by
  induction ss generalizing i seen met with
  | nil => simp [Section.walkList, siblingsFrom]
  | cons s rest ih =>
      simp only [Section.walkList, siblingsFrom, ih, Section.walk_eq, Section.siblingViolations,
        List.zipIdx_cons, List.flatMap_cons, List.append_assoc]

/-- Walking a page reports on it, whatever was met before. -/
theorem Page.walk_eq (o : Options) (p : Path) (page : Page) (met : List Occurrence) :
    page.walk o p met = ⟨page.violations o p, met ++ page.occurrences p⟩ := by
  rw [Page.walk, Page.violations, Page.occurrences]
  split
  · next h => simp [h]
  · next ss h => simp [h, Section.walkList_eq, siblings]

/-! ### Forms -/

/-- Locales are checked one by one, whatever those before are. -/
theorem Form.localeViolations_eq_siblings (locales : List String) : localeViolations locales =
    siblings (fun locale => locale) (fun i _ locale => reportIf (!Text.isLocale locale)
      (Path.root.item "locales" i) (.malformedLocale locale)) locales := by
  rw [siblings_eq_flatMap]
  rfl

/-- The widget identifiers of a form. -/
def Form.occurrences (f : Form) : List Occurrence :=
  f.pages.zipIdx.flatMap fun e => e.1.occurrences (Path.root.item "pages" e.2)

/-- The violations of page `i` of a form. -/
def Page.siblingViolations (o : Options) (i : Nat) (again : Bool) (page : Page) :
    List Violation :=
  notRepeated "page id" page.id again ((Path.root.item "pages" i).field "id") ++
    page.violations o (Path.root.item "pages" i)

/-- Walking pages reports on them as siblings and meets their identifiers. -/
theorem Page.walkList_eq (o : Options) (i : Nat) (seen : List String) (pages : List Page)
    (met : List Occurrence) : Page.walkList o i seen pages met =
      ⟨siblingsFrom Page.id (Page.siblingViolations o) i seen pages,
        met ++ (pages.zipIdx i).flatMap fun e =>
          e.1.occurrences (Path.root.item "pages" e.2)⟩ := by
  induction pages generalizing i seen met with
  | nil => simp [Page.walkList, siblingsFrom]
  | cons page rest ih =>
      simp only [Page.walkList, siblingsFrom, ih, Page.walk_eq, Page.siblingViolations,
        List.zipIdx_cons, List.flatMap_cons, List.append_assoc]

/-- Walking a form reports on it by itself and on its pages, and meets all identifiers. -/
theorem Form.walk_eq (o : Options) (f : Form) : f.walk o =
    ⟨f.ownViolations ++ siblings Page.id (Page.siblingViolations o) f.pages, f.occurrences⟩ := by
  simp [Form.walk, Page.walkList_eq, siblings, Form.occurrences]

/-- The report on a form is that of the walk, and then that on identifiers used again. -/
theorem Form.violations_eq (o : Options) (f : Form) : f.violations o =
    f.ownViolations ++ siblings Page.id (Page.siblingViolations o) f.pages ++
      repeatedWidgets f.occurrences := by
  simp only [Form.violations, Form.walk_eq]

/-! ### The widgets met -/

/-- Children that are numbered for their paths give the same identifiers as without numbers. -/
theorem flatMap_zipIdx_fst {α β : Type} (g : α → List β) (xs : List α) (i : Nat) :
    (xs.zipIdx i).flatMap (fun e => g e.1) = xs.flatMap g := by
  induction xs generalizing i with
  | nil => rfl
  | cons x rest ih => rw [List.zipIdx_cons, List.flatMap_cons, ih, List.flatMap_cons]

theorem Section.map_id_occurrences (p : Path) (s : Section) :
    (s.occurrences p).map Occurrence.id = s.widgetList.map Widget.id := by
  rw [Section.occurrences, List.map_map, ← List.flatMap_pure_eq_map, ← List.flatMap_pure_eq_map]
  exact flatMap_zipIdx_fst (fun w : Widget => [w.id]) _ 0

theorem Page.map_id_occurrences (p : Path) (page : Page) :
    (page.occurrences p).map Occurrence.id = page.widgetList.map Widget.id := by
  simp only [Page.occurrences, Page.widgetList, List.map_flatMap, Section.map_id_occurrences]
  exact flatMap_zipIdx_fst (fun s : Section => s.widgetList.map Widget.id) _ 0

/-- The identifiers met are those of the widgets, in document order. -/
theorem Form.map_id_occurrences (f : Form) :
    f.occurrences.map Occurrence.id = f.widgets.map Widget.id := by
  simp only [Form.occurrences, Form.widgets, List.map_flatMap, Page.map_id_occurrences]
  exact flatMap_zipIdx_fst (fun page : Page => page.widgetList.map Widget.id) _ 0

end EntryForm
