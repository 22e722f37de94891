import EntryForm.Proofs.Rules.Collection

/-!
# Proofs — Rules — the parts of a report

The report on a form is put together of parts: the reports on its widgets, and between them reports
on other values, which are the same whatever the options are.

* `Form.violations_eq_parts`: a report is its parts, one after another.
* `Form.ofValue_of_fixed`: the parts that are not on a widget are about values by themselves.
* `Form.widgets_parts`: the parts on widgets are those of the numbered widgets.

So the reports of a kind that no value has by itself are those on the widgets
(`Form.filter_violations`).
-/

namespace EntryForm
open Rules

/-! ### Parts -/

/-- A part of a report: reports that do not depend on the options, or the report on the widget at
a place. -/
inductive Part where
  | fixed (vs : List Violation)
  | widget (w : Widget) (p : Path)

namespace Part

/-- What the part reports. -/
def violations (o : Options) : Part → List Violation
  | fixed vs => vs
  | widget w p => w.violations o p

/-- The widget that the part is on, and its place. -/
def widget? : Part → Option (Widget × Path)
  | fixed _ => none
  | widget w p => some (w, p)

end Part

/-- The parts of the report on the section at `p`. -/
def Section.parts (p : Path) (s : Section) : List Part :=
  .fixed (identifier "section id" s.id (p.field "id")) ::
  .fixed (notBlank "section title" s.title (p.field "title")) ::
  match s.widgets with
  | none => [.fixed [⟨p.field "widgets", .undeclared "section" "widgets"⟩]]
  | some widgets => widgets.zipIdx.map fun (w, i) => .widget w (p.item "widgets" i)

/-- The parts of the report on the page at `p`. -/
def Page.parts (p : Path) (page : Page) : List Part :=
  .fixed (identifier "page id" page.id (p.field "id")) ::
  .fixed (notBlank "page title" page.title (p.field "title")) ::
  match page.sections with
  | none => [.fixed [⟨p.field "sections", .undeclared "page" "sections"⟩]]
  | some sections => sections.zipIdx.flatMap fun (s, i) =>
      .fixed (notRepeated "section id" s.id (repeatsBefore Section.id sections i s)
        ((p.item "sections" i).field "id")) :: s.parts (p.item "sections" i)

/-- The parts of the report on a form. -/
def Form.parts (f : Form) : List Part :=
  .fixed f.ownViolations ::
  (f.pages.zipIdx.flatMap fun (page, i) =>
    .fixed (notRepeated "page id" page.id (repeatsBefore Page.id f.pages i page)
      ((Path.root.item "pages" i).field "id")) :: page.parts (Path.root.item "pages" i)) ++
  [.fixed (repeatedWidgets f.occurrences)]

/-! ### A report is its parts -/

variable {o o' : Options}

/-- The report on a section is that of its parts, one after the other. -/
theorem Section.violations_eq_parts (p : Path) (s : Section) :
    s.violations o p = (s.parts p).flatMap (Part.violations o) := by
  rw [violations, parts, List.flatMap_cons, List.flatMap_cons, List.append_assoc]
  cases s.widgets with
  | none => rfl
  | some widgets =>
      simp only [siblings_eq_flatMap, List.flatMap_map]
      rfl

theorem Page.violations_eq_parts (p : Path) (page : Page) :
    page.violations o p = (page.parts p).flatMap (Part.violations o) := by
  rw [violations, parts, List.flatMap_cons, List.flatMap_cons, List.append_assoc]
  cases page.sections with
  | none => rfl
  | some sections =>
      simp only [siblings_eq_flatMap, Section.siblingViolations, Section.violations_eq_parts,
        List.flatMap_assoc, List.flatMap_cons]
      rfl

/-- The report on a form is that of its parts, one after the other. -/
theorem Form.violations_eq_parts (f : Form) :
    f.violations o = f.parts.flatMap (Part.violations o) := by
  simp only [violations_eq, parts, siblings_eq_flatMap, Page.siblingViolations,
    Page.violations_eq_parts, List.flatMap_append, List.flatMap_cons, List.flatMap_assoc,
    List.flatMap_nil, List.append_nil]
  rfl

/-- A form is valid if nothing is found. -/
theorem Form.valid_iff_findings (o : Options) (f : Form) :
    (f.report o).valid = true ↔ (f.report o).findings = [] := by
  rw [report, List.isEmpty_iff, List.map_eq_nil_iff]

/-! ### The parts that are not on a widget -/

/-- All of the part, if it is not on a widget, is about values by themselves. -/
def Part.OfValues : Part → Prop
  | fixed vs => ∀ v ∈ vs, v.kind.OfValue
  | widget .. => True

/-- A missing list is a defect of a value by itself. -/
theorem ofValue_undeclared (p : Path) (owner list : String) :
    (Part.fixed [⟨p, .undeclared owner list⟩]).OfValues := by
  intro v hv
  rw [List.mem_singleton.mp hv]
  simp [Violation.kind, Cause.kind, Violation.Kind.OfValue]

theorem ofValue_identifier (what value : String) (p : Path) :
    (Part.fixed (identifier what value p)).OfValues :=
  fun _ hv => (mem_identifier hv).2

theorem ofValue_notBlank (what value : String) (p : Path) :
    (Part.fixed (notBlank what value p)).OfValues :=
  fun _ hv => (mem_notBlank hv).2

theorem ofValue_notRepeated (what value : String) (again : Bool) (p : Path) :
    (Part.fixed (notRepeated what value again p)).OfValues :=
  fun _ hv => (mem_notRepeated hv).2

/-- What a section reports beside its widgets is about values by themselves. -/
theorem Section.ofValues (p : Path) (s : Section) : ∀ part ∈ s.parts p, part.OfValues := by
  refine List.forall_mem_cons.mpr ⟨ofValue_identifier _ _ _,
    List.forall_mem_cons.mpr ⟨ofValue_notBlank _ _ _, ?_⟩⟩
  cases s.widgets with
  | none => exact List.forall_mem_singleton.mpr (ofValue_undeclared _ _ _)
  | some widgets => exact List.forall_mem_map.mpr fun _ _ => trivial

theorem Page.ofValues (p : Path) (page : Page) : ∀ part ∈ page.parts p, part.OfValues := by
  refine List.forall_mem_cons.mpr ⟨ofValue_identifier _ _ _,
    List.forall_mem_cons.mpr ⟨ofValue_notBlank _ _ _, ?_⟩⟩
  cases page.sections with
  | none => exact List.forall_mem_singleton.mpr (ofValue_undeclared _ _ _)
  | some sections =>
      intro part h
      obtain ⟨e, -, h⟩ := List.mem_flatMap.mp h
      exact List.forall_mem_cons.mpr ⟨ofValue_notRepeated _ _ _ _, e.1.ofValues _⟩ part h

/-- What a form reports by itself is about values by themselves. -/
theorem Form.ofValues_own (f : Form) : (Part.fixed f.ownViolations).OfValues := by
  intro v hv
  simp only [ownViolations, List.mem_append] at hv
  obtain ((((hv | hv) | hv) | hv) | hv) | hv := hv
  · exact (mem_identifier hv).2
  · exact (mem_notBlank hv).2
  · exact (mem_notBlank hv).2
  · obtain ⟨e, -, hv⟩ := List.mem_flatMap.mp hv
    exact (isAt_of_mem_reportIf (by simp [Cause.kind, Violation.Kind.OfValue]) hv).2
  · split at hv
    · cases hv
    · exact (mem_identifier hv).2
  · exact (mem_reportIf_empty hv).2

/-- What a form reports beside its widgets is about values by themselves. -/
theorem Form.ofValues (f : Form) : ∀ part ∈ f.parts, part.OfValues := by
  refine List.forall_mem_cons.mpr ⟨f.ofValues_own, List.forall_mem_append.mpr ⟨?_, ?_⟩⟩
  · intro part h
    obtain ⟨e, -, h⟩ := List.mem_flatMap.mp h
    exact List.forall_mem_cons.mpr ⟨ofValue_notRepeated _ _ _ _, e.1.ofValues _⟩ part h
  · refine List.forall_mem_singleton.mpr fun v hv => ?_
    have kind := (mem_repeatedWidgets hv).1
    simp [kind, Violation.Kind.OfValue]

/-! ### The parts on widgets -/

/-- The parts of a section on widgets are its widgets at their places, in order. -/
theorem Section.widgets_parts (p : Path) (s : Section) :
    (s.parts p).filterMap Part.widget? =
      s.widgetList.zipIdx.map fun (w, k) => (w, p.item "widgets" k) := by
  rw [parts, widgetList, List.filterMap_cons_none rfl, List.filterMap_cons_none rfl]
  cases s.widgets with
  | none => rfl
  | some widgets =>
      rw [List.filterMap_map]
      exact List.filterMap_eq_map_iff_forall_eq_some.mpr fun _ _ => rfl

theorem Page.widgets_parts (p : Path) (page : Page) :
    (page.parts p).filterMap Part.widget? = (page.sections.getD []).zipIdx.flatMap fun (s, j) =>
      s.widgetList.zipIdx.map fun (w, k) => (w, (p.item "sections" j).item "widgets" k) := by
  rw [parts, List.filterMap_cons_none rfl, List.filterMap_cons_none rfl]
  cases page.sections with
  | none => rfl
  | some sections =>
      rw [List.filterMap_flatMap]
      refine List.flatMap_congr fun e _ => ?_
      exact (List.filterMap_cons_none rfl).trans (e.1.widgets_parts _)

/-- The parts of a form on widgets are its numbered widgets. -/
theorem Form.widgets_parts (f : Form) :
    f.parts.filterMap Part.widget? = f.numbered.map fun e => (e.1, placeOf e.2) := by
  rw [parts, List.cons_append, List.filterMap_cons_none rfl, List.filterMap_append,
    List.filterMap_flatMap, numbered, List.map_flatMap]
  refine (List.append_nil _).trans (List.flatMap_congr fun e _ => ?_)
  rw [List.filterMap_cons_none rfl, Page.widgets_parts, List.map_flatMap]
  refine List.flatMap_congr fun e' _ => ?_
  rw [List.map_map]
  rfl

/-- Of reports that values by themselves do not give rise to, a form has those on its widgets. -/
theorem Form.filter_violations {q : Violation → Bool}
    (hq : ∀ v : Violation, v.kind.OfValue → q v = false) (f : Form) :
    (f.violations o).filter q =
      f.numbered.flatMap fun e => (e.1.violations o (placeOf e.2)).filter q := by
  have parts (ps : List Part) (h : ∀ part ∈ ps, part.OfValues) :
      ps.flatMap (fun part => (part.violations o).filter q) =
        (ps.filterMap Part.widget?).flatMap fun e => (e.1.violations o e.2).filter q := by
    induction ps with
    | nil => rfl
    | cons part rest ih =>
        obtain ⟨here, below⟩ := List.forall_mem_cons.mp h
        rw [List.flatMap_cons, ih below]
        cases part with
        | widget w p => rfl
        | fixed vs =>
            have none : vs.filter q = [] := by
              rw [List.filter_eq_nil_iff]
              intro v hv
              rw [hq v (here v hv)]
              exact Bool.false_ne_true
            rw [Part.violations, none]
            rfl
  rw [violations_eq_parts, List.filter_flatMap, parts _ f.ofValues, widgets_parts,
    List.flatMap_map]

end EntryForm
