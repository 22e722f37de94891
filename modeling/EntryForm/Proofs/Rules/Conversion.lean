import EntryForm.Proofs.Decimal.Infinity
import EntryForm.Proofs.Rules.Walk
import EntryForm.Proofs.Wire.Printed

/-!
# Proofs — Rules — the verdict after conversion

A form that is written as JSON and read again has lost its foreign payloads and the bounds that are
not finite.  With them go the reports about them, and no others.

* `Violation.kept`: the report is about neither.  Of the checks, only the one on the bounds of a
  field makes reports that are not kept (`Kept`).
* `violations_reread`, of each record: the reports on what comes back are those that are kept, in
  the same order.
* `Form.violations_convert`: so for a form read from YAML; and what is lost beside the reports on
  foreign payloads is exactly that an infinite bound is crossed.
* `Form.violations_read_write`: so also for what is read of the text that is written, if that is
  `Legible`.
-/

namespace EntryForm
open Rules Wire

/-! ### Reports that are kept -/

/-- The bounds of a field are crossed, and one of them is infinite. -/
def Cause.ofInfinity : Cause → Bool
  | .crossedBounds upper high _ low =>
      upper == "max" && (Decimal.infinities.contains high || Decimal.infinities.contains low)
  | _ => false

/-- The report is neither on a foreign payload nor on an infinite bound. -/
def Violation.kept (v : Violation) : Bool := v.kind != .unexpectedPayload && !v.cause.ofInfinity

/-- All the reports are kept. -/
def Kept (vs : List Violation) : Prop := ∀ v ∈ vs, v.kept = true

/-- Where all reports are kept, nothing is filtered out. -/
theorem Kept.filter_eq {vs : List Violation} (h : Kept vs) : vs.filter Violation.kept = vs :=
  List.filter_eq_self.mpr h

namespace Rules

variable {p : Path}

@[simp] theorem kept_nil : Kept [] := nofun

@[simp] theorem kept_singleton {v : Violation} : Kept [v] ↔ v.kept = true := List.forall_mem_singleton

/-- Two lists of reports are kept together if each is. -/
@[simp] theorem kept_append {xs ys : List Violation} : Kept (xs ++ ys) ↔ Kept xs ∧ Kept ys :=
  List.forall_mem_append

/-- What a check reports is kept if its cause is. -/
theorem kept_reportIf {b : Bool} {c : Cause} (h : (Violation.mk p c).kept = true) :
    Kept (reportIf b p c) := by
  intro v hv
  obtain ⟨-, rfl⟩ := mem_reportIf.mp hv
  exact h

/-- What is reported behind a gate is kept if it is without it. -/
theorem kept_gated {gate : Bool} {vs : List Violation} (h : Kept vs) :
    Kept (if gate then vs else []) :=
  fun v hv => h v (mem_gated hv).2

/-- A report on a blank text is kept. -/
@[simp] theorem kept_notBlank (what value : String) : Kept (notBlank what value p) :=
  kept_reportIf rfl

@[simp] theorem kept_identifier (what value : String) : Kept (identifier what value p) := by
  unfold identifier
  split
  · exact kept_singleton.mpr rfl
  · exact kept_reportIf rfl

@[simp] theorem kept_oneOf (what : String) (allowed : List String) (value : String) :
    Kept (oneOf what allowed value p) :=
  kept_reportIf rfl

@[simp] theorem kept_between (low high : Int) (value : Count) : Kept (between low high value p) :=
  kept_reportIf rfl

@[simp] theorem kept_notNegative (value : Option Count) : Kept (notNegative value p) := by
  cases value with
  | none => exact kept_nil
  | some n => exact kept_reportIf rfl

@[simp] theorem kept_positive (name : String) (value : Option Count) :
    Kept (positive name value p) := by
  cases value with
  | none => exact kept_nil
  | some n => exact kept_reportIf rfl

/-- Bounds that are counts are not called as those of a field's value are. -/
theorem kept_ordered {upper lower : String} {high low : Option Count} (h : upper ≠ "max") :
    Kept (ordered upper high lower low p) := by
  unfold ordered
  split
  · refine kept_reportIf ?_
    rw [Violation.kept, Cause.ofInfinity, beq_false_of_ne h]
    rfl
  · exact kept_nil

@[simp] theorem kept_atMostChars (limit : Nat) (value : Option String) :
    Kept (atMostChars limit value p) := by
  cases value with
  | none => exact kept_nil
  | some s => exact kept_reportIf rfl

@[simp] theorem kept_timeOfDay (wellFormed : String → Bool) (expected : String)
    (value : Option String) : Kept (timeOfDay wellFormed expected value p) := by
  cases value with
  | none => exact kept_nil
  | some s => exact kept_reportIf rfl

@[simp] theorem kept_notRepeated (what value : String) (again : Bool) :
    Kept (notRepeated what value again p) :=
  kept_reportIf rfl

@[simp] theorem kept_localIdentifier (what value : String) (again : Bool) :
    Kept (localIdentifier what value again p) :=
  kept_append.mpr ⟨kept_identifier what value, kept_notRepeated what value again⟩

/-- Reports on siblings are kept if those on each are. -/
theorem kept_siblings {α : Type} {key : α → String} {check : Nat → Bool → α → List Violation}
    {xs : List α} (h : ∀ i again x, Kept (check i again x)) : Kept (siblings key check xs) := by
  intro v hv
  obtain ⟨i, x, -, hv⟩ := mem_siblings.mp hv
  exact h i _ x v hv

/-- What is kept of the reports on a list is kept of those on its elements. -/
theorem siblings_map {α : Type} {key : α → String} {check : Nat → Bool → α → List Violation}
    (conv : α → α) (hkey : ∀ x, key (conv x) = key x)
    (hcheck : ∀ i again x, check i again (conv x) = (check i again x).filter Violation.kept)
    (xs : List α) :
    siblings key check (xs.map conv) = (siblings key check xs).filter Violation.kept := by
  -- the keys are unchanged, so the same ones have been seen at every element
  suffices ∀ i seen, siblingsFrom key check i seen (xs.map conv) =
      (siblingsFrom key check i seen xs).filter Violation.kept from this 0 []
  induction xs with
  | nil => exact fun _ _ => rfl
  | cons x rest ih =>
      intro i seen
      rw [List.map_cons, siblingsFrom, siblingsFrom, List.filter_append, hkey, hcheck, ih]

/-- Reports on identifiers used again in the form are kept. -/
theorem kept_repeatedWidgets (os : List Occurrence) : Kept (repeatedWidgets os) := by
  intro v hv
  obtain ⟨⟨id, places⟩, -, hv⟩ := List.mem_filterMap.mp hv
  unfold repetition? at hv
  split at hv
  · obtain rfl := Option.some.inj hv
    rfl
  · cases hv

end Rules

/-! ### Fields -/

variable {p : Path}

/-- What is reread of a field has the report on crossed bounds unless one of them was infinite. -/
theorem Field.boundViolations_reread (f : Field) :
    f.reread.boundViolations p = (f.boundViolations p).filter Violation.kept := by
  rw [boundViolations, boundViolations, reread]
  cases f.min with
  | none => rfl
  | some low =>
      cases f.max with
      | none => cases Option.filter Float.isFinite (some low) <;> rfl
      | some high =>
          by_cases hlt : high < low
          · -- neither bound is a non-number, so it comes back unless it is infinite
            obtain ⟨hhigh, hlow⟩ := Decimal.isNaN_eq_false_of_lt hlt
            simp only [Option.filter_some, Decimal.isFinite_eq, hhigh, hlow, reportIf, hlt]
            simp only [decide_true, if_true, List.filter_cons, List.filter_nil, Violation.kept,
              Violation.kind, Cause.kind, Cause.ofInfinity, Decimal.contains_infinities]
            cases high.isInf <;> cases low.isInf <;> simp [hlt]
          · -- bounds that are not crossed give no report, and giving one up does not cross them
            simp only [Option.filter_some, reportIf]
            cases low.isFinite <;> cases high.isFinite <;> simp [hlt]

/-- Reports on lengths are kept: they are counts. -/
theorem Field.kept_lengthViolations (f : Field) : Kept (f.lengthViolations p) := by
  simp only [lengthViolations, kept_append, kept_notNegative, true_and]
  exact kept_gated (kept_ordered (by decide))

theorem Field.kept_patternViolations (f : Field) : Kept (f.patternViolations p) := by
  unfold patternViolations
  split
  · exact kept_nil
  · split
    · exact kept_nil
    · exact kept_singleton.mpr rfl

/-- A field that is reread has the reports that are kept. -/
theorem Field.violations_reread (f : Field) :
    f.reread.violations p = (f.violations p).filter Violation.kept := by
  have type := kept_oneOf (p := p.field "field_type") "field type" Field.types f.fieldType
  have options : Kept (reportIf (f.fieldType == "select" && f.options.isEmpty) (p.field "options")
    (.emptyCollection .selectOptions)) := kept_reportIf rfl
  simp only [violations, List.filter_append]
  rw [type.filter_eq, f.kept_lengthViolations.filter_eq, f.kept_patternViolations.filter_eq,
    options.filter_eq, ← boundViolations_reread]
  rfl

/-- A group that is reread has the reports on its fields that are kept. -/
theorem Group.violations_reread (g : Group) :
    g.reread.violations p = (g.violations p).filter Violation.kept := by
  have layout := kept_oneOf (p := p.field "layout") "group layout" Group.layouts g.layout
  rw [violations, violations, List.filter_append, layout.filter_eq]
  refine congrArg _ (siblings_map GroupField.reread (fun _ => rfl) (fun i again f => ?_) g.fields)
  have name := kept_localIdentifier (p := (p.item "fields" i).field "id") "group field id" f.id again
  rw [List.filter_append, name.filter_eq, ← Field.violations_reread]
  rfl

/-! ### The other payloads -/

/-- All reports on a table are kept. -/
theorem Table.kept (t : Table) : Kept (t.violations p) := by
  simp only [violations, kept_append, kept_notNegative, kept_positive, and_true]
  refine ⟨⟨kept_reportIf rfl, kept_siblings fun i again c => ?_⟩,
    kept_gated (kept_ordered (by decide))⟩
  simp

theorem Grid.kept (g : Grid) : Kept (g.violations p) :=
  kept_append.mpr ⟨kept_siblings fun i again r => by simp, kept_siblings fun i again c => by simp⟩

theorem Checklist.kept (c : Checklist) : Kept (c.violations p) :=
  kept_append.mpr ⟨kept_reportIf rfl, kept_siblings fun i again item => by simp⟩

theorem Header.kept (h : Header) : Kept (h.violations p) := by simp [violations]

theorem Signature.kept (s : Signature) : Kept (s.violations p) := by simp [violations]

theorem Notes.kept (n : Notes) : Kept (n.violations p) := by simp [violations]

/-- All reports on choices are kept. -/
theorem Choice.kept_listViolations (options : List Choice) :
    Kept (Choice.listViolations p options) := by
  refine kept_append.mpr ⟨kept_reportIf rfl, kept_siblings fun i again c => ?_⟩
  refine kept_append.mpr ⟨?_, kept_notBlank _ _⟩
  split
  · exact kept_singleton.mpr rfl
  · exact kept_reportIf rfl

theorem RadioGroup.kept (r : RadioGroup) : Kept (r.violations p) := by
  simp only [violations, kept_append, Choice.kept_listViolations, kept_oneOf, true_and]
  split
  · exact kept_nil
  · exact kept_reportIf rfl

theorem CheckboxGroup.kept (c : CheckboxGroup) : Kept (c.violations p) := by
  simp only [violations, kept_append, Choice.kept_listViolations, kept_oneOf, kept_notNegative,
    kept_positive, kept_between, true_and, and_true]
  exact kept_gated (kept_ordered (by decide))

/-- All reports on a time picker are kept: its bounds are texts. -/
theorem TimePicker.kept (t : TimePicker) : Kept (t.violations p) := by
  simp only [violations, kept_append, kept_oneOf, kept_between, kept_timeOfDay, true_and]
  refine kept_gated ?_
  unfold orderViolations
  split
  · exact kept_reportIf rfl
  · exact kept_nil

mutual

/-- All reports on a nested item are kept, those on its children included. -/
theorem NestedItem.kept_walk (ceiling depth : Nat) (p : Path) (keys : List String) :
    ∀ item : NestedItem, Kept (item.walk ceiling depth p keys).violations
  | .mk key label itemType required children => by
    have own : Kept (ownViolations p (keys.contains key)
        (.mk key label itemType required children)) := by
      simp [ownViolations]
    rw [walk]
    split
    · exact own
    · split
      · exact kept_append.mpr ⟨own, kept_singleton.mpr rfl⟩
      · exact kept_append.mpr ⟨own, kept_walkList ceiling (depth + 1) _ 0 _ children⟩

/-- All reports on nested items are kept. -/
theorem NestedItem.kept_walkList (ceiling depth : Nat) (p : Path) (i : Nat) (keys : List String) :
    ∀ items : List NestedItem, Kept (walkList ceiling depth p i keys items).violations
  | [] => kept_nil
  | item :: rest => by
    rw [walkList]
    exact kept_append.mpr ⟨kept_walk ceiling depth _ _ item, kept_walkList ceiling depth p _ _ rest⟩

end

theorem NestedChecklist.kept (ceiling : Nat) (c : NestedChecklist) :
    Kept (c.violations ceiling p) := by
  simp only [violations, kept_append, kept_oneOf, kept_between, and_true]
  refine ⟨kept_reportIf rfl, ?_⟩
  unfold itemViolations
  split
  · exact kept_nil
  · split
    · exact kept_singleton.mpr rfl
    · exact NestedItem.kept_walkList ceiling 1 _ 0 [] c.items

/-- A payload that is reread has the reports that are kept: only fields and groups hold floats. -/
theorem Payload.violations_reread (o : Options) (data : Payload) :
    data.reread.violations o p = (data.violations o p).filter Violation.kept := by
  cases data with
  | field data => exact data.violations_reread
  | group data => exact data.violations_reread
  | table data => exact data.kept.filter_eq.symm
  | grid data => exact data.kept.filter_eq.symm
  | checklist data => exact data.kept.filter_eq.symm
  | formHeader data => exact data.kept.filter_eq.symm
  | signature data => exact data.kept.filter_eq.symm
  | notes data => exact data.kept.filter_eq.symm
  | nestedChecklist data => exact (data.kept o.ceiling).filter_eq.symm
  | radioGroup data => exact data.kept.filter_eq.symm
  | checkboxGroup data => exact data.kept.filter_eq.symm
  | timePicker data => exact data.kept.filter_eq.symm

/-! ### Widgets -/

theorem Body.violations_reread (o : Options) (b : Body) :
    b.reread.violations o p = (b.violations o p).filter Violation.kept := by
  cases b with
  | payload data =>
      rw [reread, violations, violations, data.kind_reread]
      exact data.violations_reread o
  | missing kind => rfl
  | unknown raw =>
      show (Body.unknown raw).violations o p = _
      rw [violations]
      split <;> rfl

/-- A widget that is reread has no foreign payloads left to report, and else what is kept. -/
theorem Widget.violations_reread (o : Options) (w : Widget) :
    w.reread.violations o p = (w.violations o p).filter Violation.kept := by
  have own := kept_identifier (p := p.field "id") "widget id" w.id
  have foreign : (w.foreignViolations p).filter Violation.kept = [] := by
    rw [List.filter_eq_nil_iff]
    intro v hv
    obtain ⟨kind, -, rfl⟩ := List.mem_map.mp hv
    exact Bool.false_ne_true
  rw [violations, violations, List.filter_append, List.filter_append, own.filter_eq,
    ← Body.violations_reread]
  cases o.exclusivity with
  | strict =>
      simp only [foreign]
      rfl
  | lenient => rfl

/-! ### Sections and pages -/

/-- A section that is reread has the reports that are kept. -/
theorem Section.violations_reread (o : Options) (s : Section) :
    s.reread.violations o p = (s.violations o p).filter Violation.kept := by
  have own : Kept (identifier "section id" s.id (p.field "id") ++
    notBlank "section title" s.title (p.field "title")) := by simp
  rw [violations, violations, List.filter_append, own.filter_eq, reread]
  refine congrArg _ ?_
  cases s.widgets with
  | none => rfl
  | some ws =>
      refine siblings_map Widget.reread (fun _ => rfl) (fun i _ w => ?_) ws
      exact w.violations_reread o

/-- Identifiers and places are the same after rereading. -/
theorem Section.occurrences_reread (s : Section) : s.reread.occurrences p = s.occurrences p := by
  rw [occurrences, occurrences, widgetList, widgetList, reread]
  cases s.widgets with
  | none => rfl
  | some ws =>
      rw [Option.map_some, Option.getD_some, Option.getD_some, List.zipIdx_map, List.map_map]
      rfl

/-- A page that is reread has the reports that are kept. -/
theorem Page.violations_reread (o : Options) (page : Page) :
    page.reread.violations o p = (page.violations o p).filter Violation.kept := by
  have own : Kept (identifier "page id" page.id (p.field "id") ++
    notBlank "page title" page.title (p.field "title")) := by simp
  rw [violations, violations, List.filter_append, own.filter_eq, reread]
  refine congrArg _ ?_
  cases page.sections with
  | none => rfl
  | some ss =>
      refine siblings_map Section.reread (fun _ => rfl) (fun i again s => ?_) ss
      have name := kept_notRepeated (p := (p.item "sections" i).field "id") "section id" s.id again
      rw [Section.siblingViolations, Section.siblingViolations, List.filter_append,
        name.filter_eq, ← Section.violations_reread]
      rfl

theorem Page.occurrences_reread (page : Page) :
    page.reread.occurrences p = page.occurrences p := by
  rw [occurrences, occurrences, reread]
  cases page.sections with
  | none => rfl
  | some ss =>
      rw [Option.map_some, Option.getD_some, Option.getD_some, List.zipIdx_map, List.flatMap_map]
      exact List.flatMap_congr fun e _ => e.1.occurrences_reread

/-! ### Forms -/

/-- All reports on the form by itself are kept. -/
theorem Form.kept_ownViolations (f : Form) : Kept f.ownViolations := by
  simp only [ownViolations, kept_append, kept_identifier, kept_notBlank, true_and]
  refine ⟨⟨fun v hv => ?_, ?_⟩, kept_reportIf rfl⟩
  · obtain ⟨e, -, hv⟩ := List.mem_flatMap.mp hv
    exact kept_reportIf rfl v hv
  · split
    · exact kept_nil
    · exact kept_identifier _ _

/-- The form by itself is reread as it was. -/
theorem Form.ownViolations_reread (f : Form) : f.reread.ownViolations = f.ownViolations := by
  rw [ownViolations, ownViolations, reread, List.isEmpty_map]

/-- The form that is reread has the same widgets at the same places. -/
theorem Form.occurrences_reread (f : Form) : f.reread.occurrences = f.occurrences := by
  rw [occurrences, occurrences, reread, List.zipIdx_map, List.flatMap_map]
  exact List.flatMap_congr fun e _ => e.1.occurrences_reread

/-- A form that is reread has the reports that are kept. -/
theorem Form.violations_reread (o : Options) (f : Form) :
    f.reread.violations o = (f.violations o).filter Violation.kept := by
  have pages : siblings Page.id (Page.siblingViolations o) f.reread.pages =
      (siblings Page.id (Page.siblingViolations o) f.pages).filter Violation.kept := by
    refine siblings_map Page.reread (fun _ => rfl) (fun i again page => ?_) f.pages
    have name := kept_notRepeated (p := (Path.root.item "pages" i).field "id") "page id" page.id again
    rw [Page.siblingViolations, Page.siblingViolations, List.filter_append, name.filter_eq,
      ← Page.violations_reread]
    rfl
  rw [violations_eq, violations_eq, List.filter_append, List.filter_append, pages,
    f.kept_ownViolations.filter_eq, (kept_repeatedWidgets _).filter_eq, ownViolations_reread,
    occurrences_reread]

/-- A foreign payload has nothing to do with infinity. -/
theorem Violation.kind_ne_of_ofInfinity {v : Violation} (h : v.cause.ofInfinity = true) :
    v.kind ≠ .unexpectedPayload := by
  obtain ⟨path, cause⟩ := v
  cases cause with
  | crossedBounds upper high lower low => exact Violation.Kind.noConfusion
  | _ => cases h

/-- What is kept differs from what is about payloads that belong to their widgets only where an
infinite bound is crossed. -/
theorem filter_kept_eq_iff {vs : List Violation} :
    vs.filter Violation.kept = vs.filter (fun v => v.kind != .unexpectedPayload) ↔
      ∀ v ∈ vs, v.cause.ofInfinity = false := by
  have parts : vs.filter Violation.kept =
      (vs.filter (fun v => v.kind != .unexpectedPayload)).filter fun v => !v.cause.ofInfinity := by
    rw [List.filter_filter]
    exact List.filter_congr fun v _ => Bool.and_comm _ _
  rw [parts, List.filter_eq_self]
  constructor
  · intro h v hv
    cases hi : v.cause.ofInfinity with
    | false => rfl
    | true =>
        have kind := bne_iff_ne.mpr (Violation.kind_ne_of_ofInfinity hi)
        have := h v (List.mem_filter.mpr ⟨hv, kind⟩)
        rw [hi] at this
        cases this
  · intro h v hv
    rw [h v (List.mem_filter.mp hv).1, Bool.not_false]

/-- A form that is read from YAML comes back from JSON, with the reports on it that are kept.  These
are all but those on foreign payloads exactly if no report is that an infinite bound is crossed. -/
theorem Form.violations_convert {text : String} {f : Form} (h : Form.read .yaml text = .ok f)
    (o : Options) : f.write .json = f.toJson.written.pretty ∧
      ∃ g, decode f.toJson.written (.record .form) = .ok g ∧
        g.violations o = (f.violations o).filter Violation.kept ∧
        (g.violations o = (f.violations o).filter (fun v => v.kind != .unexpectedPayload) ↔
          ∀ v ∈ f.violations o, v.cause.ofInfinity = false) := by
  have typed : f.Typed := all_of_read WidgetDraft.typed_widget h
  refine ⟨(Json.pretty_written f.toJson).symm, f.reread, f.decode_written typed,
    f.violations_reread o, ?_⟩
  rw [violations_reread]
  exact filter_kept_eq_iff

/-- A widget whose bounds are infinite and crossed, with a foreign payload: the reports on blank and
missing values are kept. -/
theorem Form.violations_convert_kept :
    let text := "pages:\n- sections:\n  - widgets:\n    - type: field\n      field:\n" ++
      "        min: .inf\n        max: -.inf\n      notes:\n        style: tip\n"
    ∃ f g, Form.read .yaml text = .ok f ∧ (f.violations {}).length = 10 ∧
      decode f.toJson.written (.record .form) = .ok g ∧
      g.violations {} = (f.violations {}).filter Violation.kept ∧ (g.violations {}).length = 8 := by
  intro text
  obtain ⟨f, hf, count⟩ := exists_of_map_toOption (x := Form.read .yaml text)
    (g := fun f => ((f.violations {}).length, ((f.violations {}).filter Violation.kept).length))
    (b := (10, 8)) (by decide +kernel)
  obtain ⟨all, kept⟩ := Prod.mk.inj count
  obtain ⟨-, g, decoded, same, -⟩ := violations_convert hf {}
  exact ⟨f, g, hf, all, decoded, same, same ▸ kept⟩

/-- A form that is invalid for its bounds alone is valid once it has been converted. -/
theorem Form.violations_convert_lost :
    let text := "id: f\ntitle: F\nversion: v\npages:\n- id: p\n  title: P\n  sections:\n" ++
      "  - id: s\n    title: S\n    widgets:\n    - id: w\n      type: field\n" ++
      "      field:\n        min: .inf\n        max: 1\n"
    ∃ f g, Form.read .yaml text = .ok f ∧ decode f.toJson.written (.record .form) = .ok g ∧
      f.report {} = ⟨false, [⟨"pages[0].sections[0].widgets[0].field.max", .outOfRange,
        "max (1) must not be less than min (inf)"⟩]⟩ ∧
      g.report {} = ⟨true, []⟩ := by
  intro text
  obtain ⟨f, hf, reports⟩ := exists_of_map_toOption (x := Form.read .yaml text)
    (g := fun f => (f.report {},
      (decode f.toJson.written (.record .form)).toOption.map fun g => Form.report {} g))
    (b := (⟨false, [⟨"pages[0].sections[0].widgets[0].field.max", .outOfRange,
      "max (1) must not be less than min (inf)"⟩]⟩, some ⟨true, []⟩)) (by decide +kernel)
  obtain ⟨invalid, back⟩ := Prod.mk.inj reports
  obtain ⟨g, hg, valid⟩ := exists_of_map_toOption back
  exact ⟨f, g, hf, hg, invalid, valid⟩

/-- A form that is read comes back also from the text that is written of it as JSON, with the
reports on it that are kept, if that text can be read. -/
theorem Form.violations_read_write {format : Format} {text : String} {f : Form}
    (h : Form.read format text = .ok f) (legible : f.Legible) (o : Options) :
    ∃ g, Form.read .json (f.write .json) = .ok g ∧
      g.violations o = (f.violations o).filter Violation.kept := by
  have typed : f.Typed := all_of_read WidgetDraft.typed_widget h
  exact ⟨f.reread, read_write_json typed (sorted_of_read h) legible, f.violations_reread o⟩

end EntryForm
