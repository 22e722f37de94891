import EntryForm.Proofs.Rules.Apart
import EntryForm.Proofs.Text.Paths
import EntryForm.Proofs.Wire.Widgets
import EntryForm.Proofs.Wire.Read

/-!
# Proofs — Rules — every defect once

No two reports on a form agree in place and in layer.

* Each payload has a lemma `…below`: its reports are apart, and stand below the keys named.
* `Section.below`, `Page.below`, `Form.below`: so are those on the parts of a form.
* `Form.apart`: so are all reports on a form, those on repeated widget identifiers included, since
  the walk does not ask of a widget whether its identifier is used again.
* `Form.findings_once`: so no two findings agree in path and kind.
-/

namespace EntryForm
open Rules Wire

/-! ### Payloads without nesting -/

variable (p : Path)

/-- A field is reported on under these keys, each once. -/
theorem Field.below (f : Field) : Below p
    ["field_type", "max", "min_length", "max_length", "pattern", "options"] (f.violations p) := by
  have bound : Single (p.field "max") (f.boundViolations p) := by
    unfold boundViolations
    split
    · exact single_reportIf rfl
    · exact single_nil _
  have pattern : Single (p.field "pattern") (f.patternViolations p) := by
    unfold patternViolations
    split
    · exact single_nil _
    · split
      · exact single_nil _
      · exact single_singleton rfl
  have lengths : Below p ["min_length", "max_length"] (f.lengthViolations p) := by
    rw [lengthViolations, List.append_assoc]
    exact (single_notNegative _).below.append (single_countBound _ _ _ _).below (by decide)
  exact ((((single_oneOf _ _ _).below.append bound.below (by decide)).append lengths
    (by decide)).append pattern.below (by decide)).append (single_reportIf rfl).below (by decide)

/-- A group is reported on at its layout and in its fields. -/
theorem Group.below (g : Group) : Below p ["layout", "fields"] (g.violations p) := by
  refine (single_oneOf _ _ _).below.append (Within.below ?_) (by decide)
  refine within_siblings fun i again f _ => ?_
  exact ((within_localIdentifier _ _ again (by decide)).below.append (Field.below _ f.field)
    (by decide)).within

/-- An element that has a name of its own and a label. -/
theorem below_labelled {name : String} {what what' id label : String} {again : Bool}
    (hname : name ∈ ["id", "key", "value"]) (hlabel : name ≠ "label") :
    Below p [name, "label"] (localIdentifier what id again (p.field name) ++
      notBlank what' label (p.field "label")) :=
  (within_localIdentifier _ _ again hname).below.append (single_notBlank _ _).below
    (by simpa using hlabel)

/-- A column of a table or of a grid. -/
theorem below_column {what what' what'' id label type : String} {again : Bool} :
    Below p ["id", "label", "field_type"] (localIdentifier what id again (p.field "id") ++
      notBlank what' label (p.field "label") ++
      oneOf what'' Field.types type (p.field "field_type")) :=
  (below_labelled p (by decide) (by decide)).append (single_oneOf _ _ _).below (by decide)

/-- A table is reported on in its columns and at its counts of rows. -/
theorem Table.below (t : Table) : Below p ["columns", "min_rows", "max_rows"] (t.violations p) := by
  rw [Table.violations, List.append_assoc _ (positive _ _ _)]
  refine (Below.append (Within.below (within_list fun i _ c _ => ?_))
    (single_notNegative _).below (by decide)).append (single_positiveBound _ _ _ _).below
    (by decide)
  exact (below_column _).within

/-- A grid is reported on in its rows and in its columns. -/
theorem Grid.below (g : Grid) : Below p ["rows", "columns"] (g.violations p) := by
  refine Below.append (Within.below (within_siblings fun i _ r _ => ?_))
    (Within.below (within_siblings fun i _ c _ => ?_)) (by decide)
  · exact (below_labelled _ (by decide) (by decide)).within
  · exact (below_column _).within

theorem Checklist.below (c : Checklist) : Below p ["items"] (c.violations p) :=
  Within.below (within_list fun i _ item _ =>
    (below_labelled _ (by decide) (by decide)).within)

/-- A header is reported on at texts that are too long, each once. -/
theorem Header.below (h : Header) : Below p
    ["title", "subtitle", "document_number", "revision", "effective_date", "logo_url"]
    (h.violations p) :=
  (((((single_atMostChars _ _).below.append (single_atMostChars _ _).below (by decide)).append
    (single_atMostChars _ _).below (by decide)).append (single_atMostChars _ _).below
    (by decide)).append (single_atMostChars _ _).below (by decide)).append
    (single_atMostChars _ _).below (by decide)

theorem Signature.below (s : Signature) : Below p
    ["signature_width", "signature_height", "signature_type"] (s.violations p) :=
  ((single_between _ _ _).below.append (single_between _ _ _).below (by decide)).append
    (single_oneOf _ _ _).below (by decide)

theorem Notes.below (n : Notes) : Below p ["content", "style"] (n.violations p) :=
  (single_notBlank _ _).below.append (single_oneOf _ _ _).below (by decide)

/-- A value to choose is blank, or used again, but never reported for both. -/
theorem Choice.within_value (c : Choice) (again : Bool) : Within (p.field "value")
    (if Text.isBlank c.value then [⟨p.field "value", .empty "option value"⟩]
      else reportIf again (p.field "value") (.repeated "option value" c.value)) := by
  split
  · exact (single_singleton rfl).within
  · exact within_name (single_nil _) (by decide) rfl

/-- Choices are reported on within their list, apart from each other. -/
theorem Choice.within_listViolations (options : List Choice) :
    Within p (Choice.listViolations p options) :=
  within_list fun i again c _ =>
    ((Choice.within_value _ c again).below.append (single_notBlank _ _).below (by decide)).within

theorem RadioGroup.below (r : RadioGroup) : Below p ["options", "orientation", "default_value"]
    (r.violations p) := by
  refine ((Choice.within_listViolations _ _).below.append (single_oneOf _ _ _).below
    (by decide)).append (Single.below ?_) (by decide)
  split
  · exact single_nil _
  · exact single_reportIf rfl

/-- A checkbox group is reported on under these keys, its counts once each. -/
theorem CheckboxGroup.below (c : CheckboxGroup) : Below p
    ["options", "orientation", "min_selections", "max_selections", "grid_columns"]
    (c.violations p) := by
  rw [CheckboxGroup.violations, List.append_assoc _ (positive _ _ _)]
  exact ((((Choice.within_listViolations _ _).below.append (single_oneOf _ _ _).below
    (by decide)).append (single_notNegative _).below (by decide)).append
    (single_positiveBound _ _ _ _).below (by decide)).append (single_between _ _ _).below
    (by decide)

/-- The order of the times is reported once, at the later one. -/
theorem TimePicker.single_orderViolations (t : TimePicker) :
    Single (p.field "max_time") (t.orderViolations p) := by
  unfold orderViolations
  split
  · exact single_reportIf rfl
  · exact single_nil _

/-- A time picker is reported on under these keys: the order is compared only where both times are
well formed. -/
theorem TimePicker.below (t : TimePicker) : Below p
    ["format", "step_minutes", "min_time", "max_time", "default_time"] (t.violations p) := by
  have earlier : Below p ["format", "step_minutes", "min_time"]
      (oneOf "time format" TimePicker.formats t.format (p.field "format") ++
        between 1 60 t.stepMinutes (p.field "step_minutes") ++
        timeOfDay Text.isClock "HH:MM" t.minTime (p.field "min_time")) :=
    ((single_oneOf _ _ _).below.append (single_between _ _ _).below (by decide)).append
      (single_timeOfDay _ _ _).below (by decide)
  unfold TimePicker.violations
  split
  · next hg =>
    -- the times are well formed, so that the latest is only compared
    have passed : timeOfDay Text.isClock "HH:MM" t.maxTime (p.field "max_time") = [] :=
      timeOfDay_eq_nil.mpr (absentOr_iff.mp (Bool.and_eq_true_iff.mp hg).2)
    rw [passed, List.append_nil]
    exact ((earlier.append (single_timeOfDay _ _ _).below (by decide)).append
      (t.single_orderViolations p).below (by decide)).mono (by decide)
  · rw [List.append_nil]
    exact (earlier.append (single_timeOfDay _ _ _).below (by decide)).append
      (single_timeOfDay _ _ _).below (by decide)

/-! ### Nested checklists -/

/-- An item by itself is reported on at its key, its label and its type. -/
theorem NestedItem.below_own (item : NestedItem) (again : Bool) :
    Below p ["key", "label", "type"] (item.ownViolations p again) :=
  (below_labelled p (by decide) (by decide)).append (single_oneOf _ _ _).below (by decide)

mutual

/-- An item with all below it is reported on under its own keys and that of its children. -/
theorem NestedItem.below_walk (ceiling depth : Nat) (p : Path) (keys : List String) :
    ∀ item : NestedItem, Below p ["key", "label", "type", "children"]
      (item.walk ceiling depth p keys).violations
  | .mk key label itemType required children => by
    rw [walk]
    split
    · exact (below_own p _ _).mono (by decide)
    · split
      · exact (below_own p _ _).append (single_singleton rfl).below (by decide)
      · exact (below_own p _ _).append
          (within_walkList ceiling (depth + 1) _ 0 _ children).1.below (by decide)

/-- The items from position `i` on are reported below these positions. -/
theorem NestedItem.within_walkList (ceiling depth : Nat) (q : Path) (i : Nat)
    (keys : List String) : ∀ items : List NestedItem,
      Within q (walkList ceiling depth q i keys items).violations ∧
        ∀ v ∈ (walkList ceiling depth q i keys items).violations,
          ∃ j, i ≤ j ∧ (q.index j).steps <+: v.path.steps
  | [] => by
    rw [walkList]
    exact ⟨within_nil q, nofun⟩
  | item :: rest => by
    have first := (below_walk ceiling depth (q.index i) keys item).within
    obtain ⟨others, positions⟩ := within_walkList ceiling depth q (i + 1)
      (item.walk ceiling depth (q.index i) keys).keys rest
    rw [walkList]
    constructor
    · refine (first.mono (q.prefix_index i)).append others fun u hu v hv path => ?_
      obtain ⟨j, hj, hv⟩ := positions v hv
      have same := Path.index_eq_of_below (path ▸ first.within u hu) hv
      omega
    · intro v hv
      obtain hv | hv := List.mem_append.mp hv
      · exact ⟨i, Nat.le_refl i, first.within v hv⟩
      · obtain ⟨j, hj, hv⟩ := positions v hv
        exact ⟨j, by omega, hv⟩

end

/-- Items are reported on within their list, whatever keys were met. -/
theorem NestedChecklist.within_itemViolations (ceiling : Nat) (items : List NestedItem) :
    Within p (NestedChecklist.itemViolations ceiling p items) := by
  unfold itemViolations
  split
  · exact within_nil p
  · split
    · exact (single_singleton rfl).within
    · exact (NestedItem.within_walkList ceiling 1 p 0 [] items).1

/-- A nested checklist is reported on in its items and at how they are shown. -/
theorem NestedChecklist.below (ceiling : Nat) (c : NestedChecklist) :
    Below p ["items", "numbering_style", "indent_size"] (c.violations ceiling p) := by
  have settings : Below p ["numbering_style", "indent_size"]
      (oneOf "numbering style" NestedChecklist.numberingStyles c.numberingStyle
        (p.field "numbering_style") ++ between 0 100 c.indentSize (p.field "indent_size")) :=
    (single_oneOf _ _ _).below.append (single_between _ _ _).below (by decide)
  have items := within_itemViolations (p.field "items") ceiling c.items
  rw [NestedChecklist.violations, List.append_assoc (reportIf _ _ _)]
  cases h : c.items with
  | nil =>
      -- no items: the list is reported as empty, and is not walked
      rw [itemViolations, List.isEmpty_nil, if_pos rfl, List.append_nil]
      exact (single_reportIf rfl).below.append settings (by decide)
  | cons item rest =>
      rw [h] at items
      exact (settings.append items.below (by decide)).mono (by decide)

/-! ### Widgets -/

/-- A payload is reported on within itself, apart. -/
theorem Payload.within (o : Options) (data : Payload) : Within p (data.violations o p) := by
  cases data with
  | field data => exact (data.below p).within
  | group data => exact (data.below p).within
  | table data => exact (data.below p).within
  | grid data => exact (data.below p).within
  | checklist data => exact (data.below p).within
  | formHeader data => exact (data.below p).within
  | signature data => exact (data.below p).within
  | notes data => exact (data.below p).within
  | nestedChecklist data => exact (data.below p o.ceiling).within
  | radioGroup data => exact (data.below p).within
  | checkboxGroup data => exact (data.below p).within
  | timePicker data => exact (data.below p).within

/-- The keys of a widget that its body is reported at. -/
def Body.keys : List String := "type" :: Kind.all.map Kind.name

theorem Kind.name_mem_keys (kind : Kind) : [kind.name] ⊆ Body.keys :=
  List.cons_subset.mpr ⟨List.mem_cons_of_mem _ (List.mem_map_of_mem kind.mem_all), List.nil_subset _⟩

/-- A body is reported on at the type of its widget or in a payload. -/
theorem Body.below (o : Options) (b : Body) : Below p Body.keys (b.violations o p) := by
  cases b with
  | payload data => exact (data.within _ o).below.mono data.kind.name_mem_keys
  | missing kind => exact (single_singleton rfl).below.mono kind.name_mem_keys
  | unknown raw =>
      rw [violations]
      split
      · exact (single_singleton rfl).below.mono (by decide)
      · exact (single_singleton rfl).below.mono (by decide)

variable {p}

/-- No report on a body says that a payload has no place. -/
theorem Body.layer_ne {o : Options} {b : Body} {v : Violation} (hv : v ∈ b.violations o p) :
    v.kind.layer ≠ .excess := by
  unfold violations at hv
  split at hv
  · exact (Payload.inside hv).ofValue.layer_ne
  · obtain rfl := List.mem_singleton.mp hv
    exact Violation.Layer.noConfusion
  · split at hv
    · obtain rfl := List.mem_singleton.mp hv
      exact Violation.Layer.noConfusion
    · obtain rfl := List.mem_singleton.mp hv
      exact Violation.Layer.noConfusion

/-- Foreign payloads that differ are reported each once. -/
theorem Widget.within_foreign {w : Widget} (h : w.foreign.Nodup) :
    Within p (w.foreignViolations p) := by
  have each : ∀ v ∈ w.foreignViolations p, ∃ kind : Kind, v.path = p.field kind.name ∧
      v.kind.layer = .excess := by
    intro v hv
    obtain ⟨kind, -, rfl⟩ := List.mem_map.mp hv
    exact ⟨kind, rfl, rfl⟩
  refine ⟨List.pairwise_map.mpr (h.imp fun hne path => absurd ?_ hne), fun v hv => ?_,
    fun v hv => ?_⟩
  · exact Kind.name_injective (Path.field_inj path)
  · obtain ⟨kind, path, -⟩ := each v hv
    exact path ▸ p.prefix_field kind.name
  · obtain ⟨kind, path, layer⟩ := each v hv
    exact .inr ⟨p, kind.name, path, .inr ⟨layer, kind, rfl⟩⟩

/-- A widget whose foreign payloads differ is reported on within itself, apart. -/
theorem Widget.within {o : Options} {w : Widget} (h : w.foreign.Nodup) :
    Within p (w.violations o p) := by
  have own : Below p ("id" :: Body.keys) (identifier "widget id" w.id (p.field "id") ++
      w.body.violations o p) :=
    (single_identifier _ _).below.append (w.body.below p o) (by decide)
  unfold violations
  split
  · refine own.within.append (within_foreign h) fun u hu v hv _ => ?_
    obtain ⟨kind, -, rfl⟩ := List.mem_map.mp hv
    obtain hu | hu := List.mem_append.mp hu
    · rw [((single_identifier _ _).own u hu).2]
      exact Violation.Layer.noConfusion
    · exact Body.layer_ne hu
  · rw [List.append_nil]
    exact own.within

/-- Whether a widget's identifier is used again is not asked at the widget. -/
theorem Widget.layer_ne_of_id {o : Options} {w : Widget} {v : Violation}
    (hv : v ∈ w.violations o p) (path : v.path = p.field "id") : v.kind.layer ≠ .repetition := by
  simp only [violations, List.mem_append] at hv
  obtain (hv | hv) | hv := hv
  · rw [((single_identifier _ _).own v hv).2]
    exact Violation.Layer.noConfusion
  · obtain ⟨name, hname, hbelow⟩ := (w.body.below p o).below v hv
    rw [path] at hbelow
    obtain rfl := Path.name_eq_of_below hbelow (List.prefix_refl _)
    exact absurd hname (by decide)
  · split at hv
    · obtain ⟨kind, -, rfl⟩ := List.mem_map.mp hv
      exact Violation.Layer.noConfusion
    · cases hv

/-! ### Sections and pages -/

section Nodes

variable {what what' what'' id title key : String} {again : Bool} {vs : List Violation}

/-- The reports on a node by itself, its name among its siblings first. -/
theorem below_nodeOwn : Below p ["id", "title"] (notRepeated what id again (p.field "id") ++
    identifier what' id (p.field "id") ++ notBlank what'' title (p.field "title")) :=
  (within_notRepeated _ _ _ again).below.append (single_notBlank _ _).below (by decide)

/-- The reports on a node, with those on the list below it. -/
theorem below_node (hkey : key ∉ ["id", "title"]) (h : Within (p.field key) vs) :
    Below p ["id", "title", key] (notRepeated what id again (p.field "id") ++
      (identifier what' id (p.field "id") ++ notBlank what'' title (p.field "title") ++ vs)) := by
  rw [← List.append_assoc, ← List.append_assoc]
  refine below_nodeOwn.append h.below fun name hname hkey' => hkey ?_
  exact List.mem_singleton.mp hkey' ▸ hname

/-- What a node reports below another key than its own is in the rest of the report. -/
theorem mem_of_node {v : Violation} (hkey : key ∉ ["id", "title"])
    (hv : v ∈ notRepeated what id again (p.field "id") ++
      (identifier what' id (p.field "id") ++ notBlank what'' title (p.field "title") ++ vs))
    (hbelow : (p.field key).steps <+: v.path.steps) : v ∈ vs := by
  rw [← List.append_assoc, ← List.append_assoc] at hv
  exact (List.mem_append.mp hv).resolve_left (below_nodeOwn.not_mem hkey hbelow)

end Nodes

/-- A section among others is reported on under its own keys and in its widgets. -/
theorem Section.below {o : Options} {s : Section} (h : ∀ w ∈ s.widgetList, w.foreign.Nodup)
    (i : Nat) (again : Bool) :
    Below (p.item "sections" i) ["id", "title", "widgets"] (s.siblingViolations o p i again) := by
  refine below_node (by decide) ?_
  split
  · exact (single_singleton rfl).within
  · next widgets hwidgets =>
    rw [widgetList, hwidgets] at h
    exact within_siblings fun i _ w hw => Widget.within (h w hw)

/-- A page among others is reported on under its own keys and in its sections. -/
theorem Page.below {o : Options} {page : Page} (h : ∀ w ∈ page.widgetList, w.foreign.Nodup)
    (i : Nat) (again : Bool) : Below (Path.root.item "pages" i) ["id", "title", "sections"]
      (page.siblingViolations o i again) := by
  refine below_node (by decide) ?_
  split
  · exact (single_singleton rfl).within
  · next sections hsections =>
    rw [widgetList, hsections] at h
    exact within_siblings fun i again s hs =>
      (Section.below (fun w hw => h w (List.mem_flatMap.mpr ⟨s, hs, hw⟩)) i again).within

/-! ### Identifiers of widgets -/

/-- An identifier that a section meets is that of one of its widgets, at its place. -/
theorem Section.exists_of_occurrence {s : Section} {occurrence : Occurrence}
    (ho : occurrence ∈ s.occurrences p) : ∃ i w, s.widgetList[i]? = some w ∧
      occurrence.id = w.id ∧ occurrence.path = (p.item "widgets" i).field "id" := by
  obtain ⟨⟨w, i⟩, hw, rfl⟩ := List.mem_map.mp ho
  exact ⟨i, w, List.mk_mem_zipIdx_iff_getElem?.mp hw, rfl, rfl⟩

/-- The identifiers of widgets are below the section. -/
theorem Section.below_of_occurrence {s : Section} {occurrence : Occurrence}
    (ho : occurrence ∈ s.occurrences p) : p.steps <+: occurrence.path.steps := by
  obtain ⟨k, w, -, -, place⟩ := exists_of_occurrence ho
  exact place ▸ ((p.prefix_field _).trans (Path.prefix_index _ k)).trans (Path.prefix_field _ _)

/-- An identifier that a page meets stands in the page. -/
theorem Page.below_of_occurrence {page : Page} {occurrence : Occurrence}
    (ho : occurrence ∈ page.occurrences p) : p.steps <+: occurrence.path.steps := by
  obtain ⟨⟨s, j⟩, -, ho⟩ := List.mem_flatMap.mp ho
  exact ((p.prefix_field _).trans (Path.prefix_index _ j)).trans (Section.below_of_occurrence ho)

/-- A report on a section among others stands in the section. -/
theorem Section.below_of_mem {o : Options} {s : Section} {v : Violation} {i : Nat} {again : Bool}
    (hv : v ∈ s.siblingViolations o p i again) :
    (p.item "sections" i).steps <+: v.path.steps := by
  obtain hv | hv := List.mem_append.mp hv
  · exact (mem_notRepeated hv).1 ▸ Path.prefix_field _ _
  · exact (Section.leads_of_mem hv).below

theorem Page.below_of_mem {o : Options} {page : Page} {v : Violation} {i : Nat} {again : Bool}
    (hv : v ∈ page.siblingViolations o i again) :
    (Path.root.item "pages" i).steps <+: v.path.steps := by
  obtain hv | hv := List.mem_append.mp hv
  · exact (mem_notRepeated hv).1 ▸ Path.prefix_field _ _
  · exact (Page.leads_of_mem hv).below

/-- What a section reports at the identifier of a widget is not that it is used again. -/
theorem Section.layer_ne_of_occurrence {o : Options} {s t : Section} {v : Violation} {i : Nat}
    {again : Bool} (hv : v ∈ s.siblingViolations o p i again) {occurrence : Occurrence}
    (ho : occurrence ∈ t.occurrences (p.item "sections" i)) (path : v.path = occurrence.path) :
    v.kind.layer ≠ .repetition := by
  obtain ⟨k, w, -, -, place⟩ := exists_of_occurrence ho
  rw [place] at path
  have below : ((p.item "sections" i).item "widgets" k).steps <+: v.path.steps :=
    path ▸ Path.prefix_field _ _
  have hv := mem_of_node (by decide) hv ((Path.prefix_index _ k).trans below)
  split at hv
  · obtain rfl := List.mem_singleton.mp hv
    exact Violation.Layer.noConfusion
  · obtain ⟨l, x, -, hv⟩ := mem_siblings.mp hv
    -- the report is on the same widget as the occurrence
    obtain rfl := Path.index_eq_of_below (Widget.leads_of_mem hv).below below
    exact Widget.layer_ne_of_id hv path

/-- The walk over a page says of no widget that its identifier is used again. -/
theorem Page.layer_ne_of_occurrence {o : Options} {page other : Page} {v : Violation} {i : Nat}
    {again : Bool} (hv : v ∈ page.siblingViolations o i again) {occurrence : Occurrence}
    (ho : occurrence ∈ other.occurrences (Path.root.item "pages" i))
    (path : v.path = occurrence.path) : v.kind.layer ≠ .repetition := by
  obtain ⟨⟨s, j⟩, -, ho⟩ := List.mem_flatMap.mp ho
  have below : ((Path.root.item "pages" i).item "sections" j).steps <+: v.path.steps :=
    path ▸ Section.below_of_occurrence ho
  have hv := mem_of_node (by decide) hv ((Path.prefix_index _ j).trans below)
  split at hv
  · obtain rfl := List.mem_singleton.mp hv
    exact Violation.Layer.noConfusion
  · obtain ⟨l, t, -, hv⟩ := mem_siblings.mp hv
    obtain rfl := Path.index_eq_of_below (Section.below_of_mem hv) below
    exact Section.layer_ne_of_occurrence hv ho path

/-! ### Forms -/

/-- The report of the walk over a form. -/
theorem Form.below {o : Options} {f : Form} (h : ∀ w ∈ f.widgets, w.foreign.Nodup) :
    Below .root ["id", "title", "version", "locales", "storage", "pages"]
      (f.ownViolations ++ siblings Page.id (Page.siblingViolations o) f.pages) := by
  have locales : Within (Path.root.field "locales") (localeViolations (f.locales.getD [])) := by
    rw [localeViolations_eq_siblings]
    exact within_siblings fun i _ locale _ => (single_reportIf rfl).within
  have pages : Within (Path.root.field "pages") (reportIf f.pages.isEmpty (Path.root.field "pages")
      (.emptyCollection .pages) ++ siblings Page.id (Page.siblingViolations o) f.pages) :=
    within_list fun i again page hpage =>
      (Page.below (fun w hw => h w (List.mem_flatMap.mpr ⟨page, hpage, hw⟩)) i again).within
  rw [ownViolations, List.append_assoc]
  refine (((((single_identifier _ _).below.append (single_notBlank _ _).below (by decide)).append
    (single_notBlank _ _).below (by decide)).append locales.below (by decide)).append
    (show Below .root ["storage"] _ from Within.below ?_) (by decide)).append pages.below (by decide)
  split
  · exact within_nil _
  · exact (single_identifier _ _).within.mono (Path.prefix_field _ _)

/-- A report on a form by itself is a defect of its own. -/
theorem Form.layer_of_own {f : Form} {v : Violation} (hv : v ∈ f.ownViolations) :
    v.kind.layer = .own := by
  simp only [ownViolations, List.mem_append] at hv
  obtain ((((hv | hv) | hv) | hv) | hv) | hv := hv
  · exact ((single_identifier _ _).own v hv).2
  · exact ((single_notBlank _ _).own v hv).2
  · exact ((single_notBlank _ _).own v hv).2
  · obtain ⟨⟨locale, i⟩, -, hv⟩ := List.mem_flatMap.mp hv
    exact ((single_reportIf rfl).own v hv).2
  · split at hv
    · cases hv
    · exact ((single_identifier _ _).own v hv).2
  · exact ((single_reportIf rfl).own v hv).2

/-- The walk over a form says of no widget that its identifier is used again. -/
theorem Form.layer_ne_of_occurrence {o : Options} {f : Form} {v : Violation}
    (hv : v ∈ f.ownViolations ++ siblings Page.id (Page.siblingViolations o) f.pages)
    {occurrence : Occurrence} (ho : occurrence ∈ f.occurrences) (path : v.path = occurrence.path) :
    v.kind.layer ≠ .repetition := by
  obtain ⟨⟨page, i⟩, -, ho⟩ := List.mem_flatMap.mp ho
  have below : (Path.root.item "pages" i).steps <+: v.path.steps :=
    path ▸ Page.below_of_occurrence ho
  obtain hv | hv := List.mem_append.mp hv
  · rw [layer_of_own hv]
    exact Violation.Layer.noConfusion
  · obtain ⟨j, other, -, hv⟩ := mem_siblings.mp hv
    obtain rfl := Path.index_eq_of_below (Page.below_of_mem hv) below
    exact Page.layer_ne_of_occurrence hv ho path

/-! ### Places of identifiers -/

/-- The widgets of a section have their identifiers at different places. -/
theorem Section.pairwise_occurrences (s : Section) :
    (s.occurrences p).Pairwise fun a b => a.path ≠ b.path := by
  rw [occurrences, ← List.flatMap_pure_eq_map]
  refine pairwise_flatMap_zipIdx (q := p.field "widgets") Occurrence.path
    (fun e _ occurrence ho => ?_) (fun e _ => List.pairwise_singleton _ _) fun hne => hne
  obtain rfl := List.mem_singleton.mp ho
  exact Path.prefix_field _ _

theorem Page.pairwise_occurrences (page : Page) :
    (page.occurrences p).Pairwise fun a b => a.path ≠ b.path :=
  pairwise_flatMap_zipIdx Occurrence.path
    (fun _ _ _ ho => Section.below_of_occurrence ho)
    (fun e _ => e.1.pairwise_occurrences) fun hne => hne

/-- The widgets of a form have their identifiers at different places. -/
theorem Form.pairwise_occurrences (f : Form) :
    f.occurrences.Pairwise fun a b => a.path ≠ b.path :=
  pairwise_flatMap_zipIdx Occurrence.path
    (fun _ _ _ ho => Page.below_of_occurrence ho)
    (fun e _ => e.1.pairwise_occurrences) fun hne => hne

/-- Different identifiers are reported at different places. -/
theorem Rules.pairwise_repeatedWidgets {os : List Occurrence}
    (h : os.Pairwise fun a b => a.path ≠ b.path) : (repeatedWidgets os).Pairwise Violation.Apart := by
  have unique {a b : Occurrence} (ha : a ∈ os) (hb : b ∈ os) (path : a.path = b.path) : a = b :=
    List.inj_on_of_nodup_map (List.pairwise_map.mpr h) ha hb path
  have origin {id : String} {v : Violation} (hv : repetition? id (placesOf id (named os)) = some v) :
      ∃ a ∈ os, a.id = id ∧ a.path = v.path := by
    obtain ⟨a, ha, path⟩ := List.mem_map.mp (repetition?_eq_some hv).1
    obtain ⟨ha, same⟩ := List.mem_filter.mp ha
    exact ⟨a, (List.mem_filter.mp ha).1, of_decide_eq_true same, path⟩
  rw [repeatedWidgets_eq]
  -- each report stands at an occurrence of its identifier, and a place has one occurrence
  refine List.pairwise_filterMap.mpr ((nodup_eraseDups _).imp fun hne u hu v hv path => ?_)
  obtain ⟨a, ha, rfl, hau⟩ := origin hu
  obtain ⟨b, hb, rfl, hbv⟩ := origin hv
  exact absurd (congrArg Occurrence.id (unique ha hb (hau.trans (path.trans hbv.symm)))) hne

/-- Identifiers used again are reported in the form, apart. -/
theorem Form.within_repeatedWidgets (f : Form) : Within .root (repeatedWidgets f.occurrences) where
  apart := pairwise_repeatedWidgets f.pairwise_occurrences
  within _ _ := List.nil_prefix
  named v hv := by
    obtain ⟨kind, occurrence, ho, path⟩ := mem_repeatedWidgets hv
    obtain ⟨⟨page, i⟩, -, ho⟩ := List.mem_flatMap.mp ho
    obtain ⟨⟨s, j⟩, -, ho⟩ := List.mem_flatMap.mp ho
    obtain ⟨k, w, -, -, place⟩ := Section.exists_of_occurrence ho
    exact .inr ⟨_, "id", path.symm.trans place, .inl ⟨by rw [kind]; rfl, by decide⟩⟩

/-- All reports on a form are apart. -/
theorem Form.within {o : Options} {f : Form} (h : ∀ w ∈ f.widgets, w.foreign.Nodup) :
    Within .root (f.violations o) := by
  rw [violations_eq]
  refine (Form.below h).within.append f.within_repeatedWidgets fun u hu v hv same => ?_
  obtain ⟨kind, occurrence, ho, path⟩ := mem_repeatedWidgets hv
  rw [kind]
  exact layer_ne_of_occurrence hu ho (same.trans path.symm)

/-! ### Texts of paths -/

/-- The keys of a record have neither dots nor brackets. -/
theorem Wire.Record.plainName_of_lookup {r : Record} {key : String} {e : Shape × Bool}
    (h : r.keys.lookup key = some e) : PlainName key := by
  have names : ∀ name ∈ r.keys.map Prod.fst, PlainName name := by cases r <;> decide
  obtain ⟨entry, hentry, same⟩ := List.lookup_isSome_iff.mp (Option.isSome_of_eq_some h)
  exact names key (List.mem_map.mpr ⟨entry, hentry, (beq_iff_eq.mp same).symm⟩)

/-- What is reported on is reached by plain steps. -/
theorem Wire.Points.plain {kind : Violation.Kind} {s : Shape} {j : Json} {steps : List Step}
    (h : Points kind s j steps) : ∀ t ∈ steps, t.Plain := by
  induction h with
  | here => nofun
  | element _ _ ih => exact List.forall_mem_cons.mpr ⟨trivial, ih⟩
  | value known _ _ ih =>
      exact List.forall_mem_cons.mpr ⟨Record.plainName_of_lookup known, ih⟩
  | absent known =>
      exact List.forall_mem_singleton.mpr (Record.plainName_of_lookup known)

/-- What is reported on a form has a path whose text can be taken apart. -/
theorem Form.plain_of_mem {o : Options} {f : Form} {v : Violation} (hv : v ∈ f.violations o) :
    v.path.Plain := by
  obtain ⟨steps, hne, hsteps, hpoints⟩ := leads_of_mem hv
  rw [Path.root, List.nil_append] at hsteps
  refine ⟨?_, hsteps ▸ hpoints.plain⟩
  rw [hsteps]
  cases hpoints with
  | here => exact absurd rfl hne
  | value => exact ⟨_, _, rfl⟩
  | absent => exact ⟨_, _, rfl⟩

/-! ### Findings -/

/-- The keys of the upper bounds, and that of the items of a checklist. -/
def boundKeys : List String := ["max_length", "max_rows", "max_selections", "max_time", "items"]

/-- The findings say nothing twice. -/
structure Once (gs : List Finding) : Prop where
  /-- No two findings agree in path and kind. -/
  distinct : (gs.map fun g => (g.path, g.kind)).Nodup
  /-- A bound is reported once at most, and so is the list of the items of a checklist. -/
  bound : ∀ p : Path, ∀ key ∈ boundKeys, (gs.filter (·.path = (p.field key).render)).length ≤ 1
  /-- An identifier is reported once at most for what it is, and once at most for being used
  again. -/
  identifier : ∀ p : Path,
    (gs.filter fun g => g.path = (p.field "id").render ∧ g.kind ≠ .duplicateIdentifier).length ≤ 1 ∧
    (gs.filter fun g => g.path = (p.field "id").render ∧ g.kind = .duplicateIdentifier).length ≤ 1

/-- The layer of repetition is that of identifiers used again. -/
theorem Violation.Kind.layer_eq_repetition_iff {k : Violation.Kind} :
    k.layer = .repetition ↔ k = .duplicateIdentifier := by
  cases k <;> decide

/-- What is reported under a key that is no kind's name is not that a payload has no place. -/
theorem Violation.Named.layer_of_field {v : Violation} (h : v.Named) {q : Path} {key : String}
    (path : v.path = q.field key) (hkey : key ∉ EntryForm.Kind.all.map EntryForm.Kind.name) :
    v.kind.layer = .own ∨ v.kind.layer = .repetition ∧ key ∈ ["id", "key", "value"] := by
  obtain own | ⟨q', other, path', ⟨layer, hother⟩ | ⟨-, kind, rfl⟩⟩ := h
  · exact .inl own
  · obtain rfl := Path.field_inj (path.symm.trans path')
    exact .inr ⟨layer, hother⟩
  · obtain rfl := Path.field_inj (path.symm.trans path')
    exact absurd (List.mem_map_of_mem kind.mem_all) hkey

section Findings

variable {o : Options} {f : Form} (h : ∀ w ∈ f.widgets, w.foreign.Nodup)
include h

/-- Of the findings that share a path and a layer there is one at most. -/
theorem Form.length_filter_findings_le_one {q : Finding → Bool} (text : String)
    (layer : Violation.Layer)
    (hq : ∀ v ∈ f.violations o, q v.finding → v.path.render = text ∧ v.kind.layer = layer) :
    ((f.report o).findings.filter q).length ≤ 1 := by
  rw [report, List.filter_map, List.length_map]
  have apart := (Form.within (o := o) h).apart.filter (q ∘ Violation.finding)
  match hvs : (f.violations o).filter (q ∘ Violation.finding) with
  | [] => exact Nat.zero_le 1
  | [_] => exact Nat.le_refl 1
  | u :: v :: rest =>
      -- of two such reports, the texts of the paths agree, so the paths do, and they are not apart
      have each {x : Violation} (hx : x ∈ u :: v :: rest) :
          x ∈ f.violations o ∧ x.path.render = text ∧ x.kind.layer = layer := by
        obtain ⟨hmem, hqx⟩ := List.mem_filter.mp (hvs ▸ hx)
        exact ⟨hmem, hq x hmem hqx⟩
      obtain ⟨hu, textu, layeru⟩ := each List.mem_cons_self
      obtain ⟨hv, textv, layerv⟩ := each (List.mem_cons_of_mem _ List.mem_cons_self)
      have same := (Path.render_inj (plain_of_mem hu) (plain_of_mem hv)).mp
        (textu.trans textv.symm)
      rw [hvs] at apart
      exact absurd (layeru.trans layerv.symm)
        ((List.pairwise_cons.mp apart).1 v List.mem_cons_self same)

/-- No two findings have the same path and kind. -/
theorem Form.nodup_findings : ((f.report o).findings.map fun g => (g.path, g.kind)).Nodup := by
  rw [report, List.map_map]
  refine List.pairwise_map.mpr ((Form.within h).apart.imp_of_mem fun hu hv apart same => ?_)
  obtain ⟨text, kind⟩ := Prod.mk.inj same
  have path := (Path.render_inj (plain_of_mem hu) (plain_of_mem hv)).mp text
  exact apart path (congrArg Violation.Kind.layer kind)

/-- What is reported under a key by its text is so by its path. -/
theorem Form.layer_of_text {v : Violation} (hv : v ∈ f.violations o) {p : Path} {key : String}
    (plain : PlainName key) (hkey : key ∉ Kind.all.map Kind.name)
    (text : v.path.render = (p.field key).render) :
    v.kind.layer = .own ∨ v.kind.layer = .repetition ∧ key ∈ ["id", "key", "value"] := by
  obtain ⟨q, path⟩ := Path.eq_field_of_render_eq (plain_of_mem hv) plain text
  exact ((Form.within h).named v hv).layer_of_field path hkey

theorem Form.once_of_nodup : Once (f.report o).findings where
  distinct := nodup_findings h
  bound p key hkey := by
    refine length_filter_findings_le_one h (p.field key).render .own fun v hv hq => ?_
    have text : v.path.render = (p.field key).render := of_decide_eq_true hq
    have names : ∀ name ∈ boundKeys, PlainName name ∧ name ∉ Kind.all.map Kind.name ∧
        name ∉ ["id", "key", "value"] := by decide
    obtain ⟨plain, unlike, single⟩ := names key hkey
    exact ⟨text, (layer_of_text h hv plain unlike text).resolve_right fun again => single again.2⟩
  identifier p := by
    constructor
    · refine length_filter_findings_le_one h (p.field "id").render .own fun v hv hq => ?_
      obtain ⟨text, kind⟩ := of_decide_eq_true hq
      refine ⟨text, (layer_of_text h hv (by decide) (by decide) text).resolve_right fun again => ?_⟩
      exact kind (Violation.Kind.layer_eq_repetition_iff.mp again.1)
    · refine length_filter_findings_le_one h (p.field "id").render .repetition fun v hv hq => ?_
      obtain ⟨text, kind⟩ := of_decide_eq_true hq
      exact ⟨text, Violation.Kind.layer_eq_repetition_iff.mpr kind⟩

end Findings

/-- A widget that is read has no kind twice among the payloads without a place. -/
theorem Form.nodup_foreign_of_read {format : Format} {text : String} {f : Form}
    (h : Form.read format text = .ok f) : ∀ w ∈ f.widgets, w.foreign.Nodup := by
  have kinds : Kind.all.Nodup := by decide
  exact all_of_read (P := fun w => w.foreign.Nodup) (fun _ => List.Nodup.filter _ kinds) h

/-- No defect of a form is reported twice.  What is asked of the form holds of all that are read. -/
theorem Form.findings_once :
    (∀ (format : Format) (text : String) (f : Form), Form.read format text = .ok f →
      ∀ w ∈ f.widgets, w.foreign.Nodup) ∧
    ∀ (o : Options) (f : Form), (∀ w ∈ f.widgets, w.foreign.Nodup) →
      Once (f.report o).findings :=
  ⟨fun _ _ _ h => nodup_foreign_of_read h, fun _ _ h => once_of_nodup h⟩

/-- Two widgets share a malformed identifier, and each has a payload without a place. -/
theorem Form.findings_once_foreign :
    let text := "id: f\ntitle: F\nversion: v1\npages:\n- id: p\n  title: P\n  sections:\n" ++
      "  - id: s\n    title: S\n    widgets:\n" ++
      "    - id: W\n      type: notes\n      checklist:\n        items:\n" ++
      "    - id: W\n      type: notes\n      checklist:\n        items:\n"
    ∃ f, Form.read .yaml text = .ok f ∧ (f.report {}).findings.length = 7 ∧
      Once (f.report {}).findings := by
  intro text
  obtain ⟨f, hf, count⟩ := exists_of_map_toOption (x := Form.read .yaml text)
    (g := fun f => (f.report {}).findings.length) (b := 7) (by decide +kernel)
  exact ⟨f, hf, count, findings_once.2 {} f (findings_once.1 _ _ f hf)⟩

end EntryForm
