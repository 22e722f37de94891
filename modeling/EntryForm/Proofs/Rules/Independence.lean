import EntryForm.Proofs.Rules.Once

/-!
# Proofs — Rules — independence of widgets

What is reported outside a widget does not depend on the widget, its identifier apart.

* `Form.replaceWidget`: the form with another widget at a place.
* `Around o place id R`: the reports `R w`, for a widget `w` with the identifier, are those on `w`
  at the place, between reports that stand elsewhere and are the same for all such widgets.
  `Around.siblings` goes from an element to its list, `Around.node` from a list to its node.
* `Form.around_walk`: so the walk over a form depends on each of its widgets.
* `Form.findings_replaceWidget`: so a defect of one widget hides, adds or reorders no other.
-/

namespace EntryForm
open Rules Wire

/-! ### Another widget -/

/-- The section with the widget in place of widget `k`. -/
def Section.replaceWidget (s : Section) (k : Nat) (w : Widget) : Section :=
  { s with widgets := s.widgets.map (·.set k w) }

/-- The page with the widget in place of widget `k` of section `j`. -/
def Page.replaceWidget (page : Page) (j k : Nat) (w : Widget) : Page :=
  { page with sections := page.sections.map (·.modify j (·.replaceWidget k w)) }

/-- The form with the widget in place of widget `k` of section `j` of page `i`. -/
def Form.replaceWidget (f : Form) (i j k : Nat) (w : Widget) : Form :=
  { f with pages := f.pages.modify i (·.replaceWidget j k w) }

/-- Widget `k` of section `j` of page `i`. -/
def Form.widgetAt? (f : Form) (i j k : Nat) : Option Widget := do
  let page ← f.pages[i]?
  let s ← (page.sections.getD [])[j]?
  s.widgetList[k]?

/-- Where widget `k` of section `j` of page `i` is. -/
def widgetPlace (i j k : Nat) : Path :=
  ((Path.root.item "pages" i).item "sections" j).item "widgets" k

/-- The text of a widget's place gives its numbers. -/
theorem render_widgetPlace (i j k : Nat) : (widgetPlace i j k).render =
    "pages[" ++ toString i ++ "].sections[" ++ toString j ++ "].widgets[" ++ toString k ++ "]" := by
  simp [widgetPlace, Path.item, Path.render_index, Path.render_field, Path.extendText,
    String.append_assoc]

/-- The finding is about something in the widget at the place. -/
def Finding.IsBelow (place : Path) (g : Finding) : Prop :=
  (place.render ++ ".").toList <+: g.path.toList

/-- The findings about a widget are told by the beginning of their text alone. -/
theorem Finding.isBelow_widgetPlace_iff {i j k : Nat} {g : Finding} :
    g.IsBelow (widgetPlace i j k) ↔ ("pages[" ++ toString i ++ "].sections[" ++ toString j ++
      "].widgets[" ++ toString k ++ "].").toList <+: g.path.toList := by
  rw [IsBelow, render_widgetPlace, String.append_assoc]
  rfl

instance (place : Path) : DecidablePred (Finding.IsBelow place) :=
  fun _ => inferInstanceAs (Decidable (_ <+: _))

/-- To change an element that is there is to set it. -/
theorem modify_eq_set {α : Type} {xs : List α} {i : Nat} {x : α} (h : xs[i]? = some x)
    (g : α → α) : xs.modify i g = xs.set i (g x) := by
  rw [List.modify_eq_set_getElem?, h]
  rfl

/-- Changing an element leaves none out. -/
theorem isEmpty_modify {α : Type} (xs : List α) (i : Nat) (g : α → α) :
    (xs.modify i g).isEmpty = xs.isEmpty := by
  cases xs <;> cases i <;> rfl

/-! ### Reports around a widget -/

/-- The reports are those on the widget at the place, between others that stand elsewhere. -/
def Around (o : Options) (place : Path) (id : String) (R : Widget → List Violation) : Prop :=
  ∃ before after : List Violation, (∀ v ∈ before ++ after, ¬ place.steps <+: v.path.steps) ∧
    ∀ w : Widget, w.id = id → R w = before ++ w.violations o place ++ after

section Around

variable {o : Options} {place p : Path} {id : String} {R : Widget → List Violation}

/-- The reports on the widget itself, with none around them. -/
theorem around_widget : Around o place id fun w => w.violations o place :=
  ⟨[], [], nofun, fun w _ => by rw [List.nil_append, List.append_nil]⟩

/-- Reports that agree on widgets with the identifier stand around it alike. -/
theorem Around.congr {R' : Widget → List Violation} (h : Around o place id R)
    (same : ∀ w : Widget, w.id = id → R' w = R w) : Around o place id R' := by
  obtain ⟨before, after, outside, hR⟩ := h
  exact ⟨before, after, outside, fun w hw => (same w hw).trans (hR w hw)⟩

/-- More reports may stand before, if they are elsewhere. -/
theorem Around.append_left {vs : List Violation} (h : Around o place id R)
    (hvs : ∀ v ∈ vs, ¬ place.steps <+: v.path.steps) : Around o place id fun w => vs ++ R w := by
  obtain ⟨before, after, outside, hR⟩ := h
  refine ⟨vs ++ before, after, ?_, fun w hw => ?_⟩
  · rw [List.append_assoc]
    exact List.forall_mem_append.mpr ⟨hvs, outside⟩
  · simp only [hR w hw, List.append_assoc]

/-- More reports may stand behind, if they are elsewhere. -/
theorem Around.append_right {vs : List Violation} (h : Around o place id R)
    (hvs : ∀ v ∈ vs, ¬ place.steps <+: v.path.steps) : Around o place id fun w => R w ++ vs := by
  obtain ⟨before, after, outside, hR⟩ := h
  refine ⟨before, after ++ vs, ?_, fun w hw => ?_⟩
  · rw [← List.append_assoc]
    exact List.forall_mem_append.mpr ⟨outside, hvs⟩
  · simp only [hR w hw, List.append_assoc]

section Lists

variable {α : Type} {key : α → String} {check : Nat → Bool → α → List Violation} {xs : List α}

/-- Of a list, only the element at `i` depends on the widget, and its key does not. -/
theorem Around.siblings {i : Nat} {x : α} {g : Widget → α} (hx : xs[i]? = some x)
    (hkey : ∀ w : Widget, w.id = id → key (g w) = key x)
    (here : ∀ again, Around o place id fun w => check i again (g w))
    (others : ∀ m again y, m ≠ i → ∀ v ∈ check m again y, ¬ place.steps <+: v.path.steps) :
    Around o place id fun w => Rules.siblings key check (xs.set i (g w)) := by
  obtain ⟨hi, -⟩ := List.getElem?_eq_some_iff.mp hx
  have before : ∀ v ∈ Rules.siblings key check (xs.take i), ¬ place.steps <+: v.path.steps := by
    intro v hv
    obtain ⟨m, y, hy, hv⟩ := mem_siblings.mp hv
    have hm : m < i := by
      obtain ⟨hm, -⟩ := List.getElem?_eq_some_iff.mp hy
      exact Nat.lt_of_lt_of_le hm (List.length_take_le i xs)
    exact others m _ y (by omega) v hv
  have after (seen : List String) : ∀ v ∈ siblingsFrom key check (i + 1) seen (xs.drop (i + 1)),
      ¬ place.steps <+: v.path.steps := by
    intro v hv
    rw [siblingsFrom_eq_flatMap] at hv
    obtain ⟨⟨y, m⟩, hy, hv⟩ := List.mem_flatMap.mp hv
    have hm := List.le_snd_of_mem_zipIdx hy
    exact others m _ y (by omega) v hv
  -- the element's key is the same for every `w`, so later elements find the same keys used
  let seen := ((xs.take i).map key).reverse
  refine (((here (seen.contains (key x))).append_left before).append_right
    (after (key x :: seen))).congr fun w hw => ?_
  rw [List.set_eq_take_append_cons_drop, if_pos hi, Rules.siblings, siblingsFrom_append,
    siblingsFrom, hkey w hw, List.length_take_of_le (Nat.le_of_lt hi), Nat.zero_add,
    List.append_nil, Rules.siblings, List.append_assoc]

end Lists

/-- Of a node, only the list below it depends on the widget. -/
theorem Around.node {what what' what'' name title key : String} {again : Bool}
    (h : Around o place id R) (hkey : key ∉ ["id", "title"])
    (hplace : (p.field key).steps <+: place.steps) :
    Around o place id fun w => notRepeated what name again (p.field "id") ++
      (identifier what' name (p.field "id") ++ notBlank what'' title (p.field "title") ++ R w) := by
  have own : ∀ v ∈ notRepeated what name again (p.field "id") ++
      identifier what' name (p.field "id") ++ notBlank what'' title (p.field "title"),
      ¬ place.steps <+: v.path.steps :=
    fun v hv below => below_nodeOwn.not_mem hkey (hplace.trans below) hv
  refine (h.append_left own).congr fun w _ => ?_
  simp only [List.append_assoc]

end Around

/-! ### The parts of a form -/

variable {o : Options} {p : Path} {w₀ : Widget}

/-- A section has the reports on its widget between others that do not depend on it. -/
theorem Section.around {s : Section} {k : Nat} (hw : s.widgetList[k]? = some w₀) (j : Nat)
    (again : Bool) : Around o ((p.item "sections" j).item "widgets" k) w₀.id fun w =>
      (s.replaceWidget k w).siblingViolations o p j again := by
  obtain ⟨id, title, _ | widgets⟩ := s
  · cases hw
  · have list : Around o ((p.item "sections" j).item "widgets" k) w₀.id fun w =>
        siblings Widget.id
          (fun i _ w => w.violations o ((p.item "sections" j).item "widgets" i))
          (widgets.set k w) := by
      refine Around.siblings hw (fun w hid => hid) (fun _ => around_widget) ?_
      intro m _ y hm v hv below
      exact hm (Path.index_eq_of_below (Widget.leads_of_mem hv).below below)
    exact list.node (by decide) (Path.prefix_index _ k)

/-- A page has the reports on a widget between others that do not depend on it. -/
theorem Page.around {page : Page} {s : Section} {j k : Nat}
    (hs : (page.sections.getD [])[j]? = some s) (hw : s.widgetList[k]? = some w₀) (i : Nat)
    (again : Bool) : Around o (widgetPlace i j k) w₀.id fun w =>
      (page.replaceWidget j k w).siblingViolations o i again := by
  obtain ⟨id, title, _ | sections⟩ := page
  · cases hs
  · replace hs : sections[j]? = some s := hs
    have list : Around o (widgetPlace i j k) w₀.id fun w => siblings Section.id
        (Section.siblingViolations o (Path.root.item "pages" i))
        (sections.set j (s.replaceWidget k w)) := by
      refine Around.siblings hs (fun _ _ => rfl) (Section.around hw j) ?_
      intro m _ y hm v hv below
      -- what a section reports need not be about a widget, so its own place is compared
      refine hm (Path.index_eq_of_below (Section.below_of_mem hv) ?_)
      exact ((Path.prefix_field _ _).trans (Path.prefix_index _ k)).trans below
    have place : ((Path.root.item "pages" i).field "sections").steps <+: (widgetPlace i j k).steps :=
      ((Path.prefix_index _ j).trans (Path.prefix_field _ _)).trans (Path.prefix_index _ k)
    have node : Around o (widgetPlace i j k) w₀.id fun w =>
        Page.siblingViolations o i again ⟨id, title, some (sections.set j (s.replaceWidget k w))⟩ :=
      list.node (by decide) place
    refine node.congr fun w _ => ?_
    rw [replaceWidget, Option.map_some, modify_eq_set hs]

/-- What is asked of a form apart from its pages is not reported inside a page. -/
theorem Form.not_prefix_of_own {f : Form} {v : Violation} (hv : v ∈ f.ownViolations) (i : Nat) :
    ¬ (Path.root.item "pages" i).steps <+: v.path.steps := by
  intro below
  have pages {name : String} (h : (Path.root.field name).steps <+: v.path.steps) :
      name = "pages" :=
    Path.name_eq_of_below h ((Path.prefix_index _ i).trans below)
  simp only [ownViolations, List.mem_append] at hv
  obtain ((((hv | hv) | hv) | hv) | hv) | hv := hv
  · exact absurd (pages ((single_identifier _ _).within.within v hv)) (by decide)
  · exact absurd (pages ((single_notBlank _ _).within.within v hv)) (by decide)
  · exact absurd (pages ((single_notBlank _ _).within.within v hv)) (by decide)
  · obtain ⟨⟨locale, m⟩, -, hv⟩ := List.mem_flatMap.mp hv
    have here := (single_reportIf rfl).within.within v hv
    exact absurd (pages ((Path.prefix_index _ m).trans here)) (by decide)
  · split at hv
    · cases hv
    · have here := (single_identifier _ _).within.within v hv
      exact absurd (pages ((Path.prefix_field _ _).trans here)) (by decide)
  · -- the list of pages is not inside a page
    rw [((single_reportIf rfl).own v hv).1] at below
    exact absurd below.length_le (by simp [Path.item, Path.field, Path.index])

/-- The walk over a form depends on a widget only where the widget is. -/
theorem Form.around_walk {f : Form} {i j k : Nat} (hw : f.widgetAt? i j k = some w₀) :
    Around o (widgetPlace i j k) w₀.id fun w => ((f.replaceWidget i j k w).walk o).violations := by
  obtain ⟨page, hpage, hw⟩ := Option.bind_eq_some_iff.mp hw
  obtain ⟨s, hs, hw⟩ := Option.bind_eq_some_iff.mp hw
  have place : (Path.root.item "pages" i).steps <+: (widgetPlace i j k).steps :=
    (((Path.prefix_field _ _).trans (Path.prefix_index _ j)).trans (Path.prefix_field _ _)).trans
      (Path.prefix_index _ k)
  have list : Around o (widgetPlace i j k) w₀.id fun w => siblings Page.id
      (Page.siblingViolations o) (f.pages.set i (page.replaceWidget j k w)) := by
    refine Around.siblings hpage (fun _ _ => rfl) (Page.around hs hw i) ?_
    intro m _ y hm v hv below
    exact hm (Path.index_eq_of_below (Page.below_of_mem hv) (place.trans below))
  have own : ∀ v ∈ f.ownViolations, ¬ (widgetPlace i j k).steps <+: v.path.steps :=
    fun v hv below => not_prefix_of_own hv i (place.trans below)
  refine (list.append_left own).congr fun w _ => ?_
  have same : (f.replaceWidget i j k w).ownViolations = f.ownViolations := by
    simp [ownViolations, replaceWidget, isEmpty_modify]
  rw [walk_eq, same, replaceWidget, modify_eq_set hpage]

/-! ### Identifiers -/

section Lists

variable {α β : Type} {xs : List α} {i : Nat} {x : α}

/-- To set an element to itself changes nothing. -/
theorem set_of_getElem? (hx : xs[i]? = some x) : xs.set i x = xs := by
  obtain ⟨hi, rfl⟩ := List.getElem?_eq_some_iff.mp hx
  exact List.set_getElem_self hi

/-- What is gathered from a list is the same if one element gives the same as before. -/
theorem flatMap_zipIdx_set {g : α × Nat → List β} {y : α} (hx : xs[i]? = some x)
    (h : g (y, i) = g (x, i)) : (xs.set i y).zipIdx.flatMap g = xs.zipIdx.flatMap g := by
  obtain ⟨hi, -⟩ := List.getElem?_eq_some_iff.mp hx
  have around (z : α) : (xs.set i z).zipIdx.flatMap g = (xs.take i).zipIdx.flatMap g ++
      (g (z, i) ++ ((xs.drop (i + 1)).zipIdx (i + 1)).flatMap g) := by
    rw [List.set_eq_take_append_cons_drop, if_pos hi, List.zipIdx_append, List.flatMap_append,
      List.length_take_of_le (Nat.le_of_lt hi), Nat.zero_add, List.zipIdx_cons,
      List.flatMap_cons]
  rw [around y, h, ← around x, set_of_getElem? hx]

end Lists

/-- The other widget has the same identifier, so the section has the same. -/
theorem Section.occurrences_replaceWidget {s : Section} {k : Nat} (hw : s.widgetList[k]? = some w₀)
    {w : Widget} (hid : w.id = w₀.id) : (s.replaceWidget k w).occurrences p = s.occurrences p := by
  obtain ⟨id, title, _ | widgets⟩ := s
  · cases hw
  · rw [occurrences, occurrences, ← List.flatMap_pure_eq_map, ← List.flatMap_pure_eq_map]
    replace hw : widgets[k]? = some w₀ := hw
    refine flatMap_zipIdx_set hw ?_
    simp only [Function.comp_apply, hid]

/-- The page has the same identifiers after the exchange. -/
theorem Page.occurrences_replaceWidget {page : Page} {s : Section} {j k : Nat}
    (hs : (page.sections.getD [])[j]? = some s) (hw : s.widgetList[k]? = some w₀) {w : Widget}
    (hid : w.id = w₀.id) : (page.replaceWidget j k w).occurrences p = page.occurrences p := by
  obtain ⟨id, title, _ | sections⟩ := page
  · cases hs
  · replace hs : sections[j]? = some s := hs
    rw [occurrences, replaceWidget, Option.map_some, modify_eq_set hs]
    exact flatMap_zipIdx_set hs (Section.occurrences_replaceWidget hw hid)

/-- The form has the same identifiers after the exchange. -/
theorem Form.occurrences_replaceWidget {f : Form} {i j k : Nat}
    (hw : f.widgetAt? i j k = some w₀) {w : Widget} (hid : w.id = w₀.id) :
    (f.replaceWidget i j k w).occurrences = f.occurrences := by
  obtain ⟨page, hpage, hw⟩ := Option.bind_eq_some_iff.mp hw
  obtain ⟨s, hs, hw⟩ := Option.bind_eq_some_iff.mp hw
  rw [occurrences, replaceWidget, modify_eq_set hpage]
  exact flatMap_zipIdx_set hpage (Page.occurrences_replaceWidget hs hw hid)

/-! ### The widget itself -/

theorem Section.replaceWidget_self {s : Section} {k : Nat} (hw : s.widgetList[k]? = some w₀) :
    s.replaceWidget k w₀ = s := by
  obtain ⟨id, title, _ | widgets⟩ := s
  · cases hw
  · replace hw : widgets[k]? = some w₀ := hw
    rw [replaceWidget, Option.map_some, set_of_getElem? hw]

theorem Page.replaceWidget_self {page : Page} {s : Section} {j k : Nat}
    (hs : (page.sections.getD [])[j]? = some s) (hw : s.widgetList[k]? = some w₀) :
    page.replaceWidget j k w₀ = page := by
  obtain ⟨id, title, _ | sections⟩ := page
  · cases hs
  · replace hs : sections[j]? = some s := hs
    rw [replaceWidget, Option.map_some, modify_eq_set hs, Section.replaceWidget_self hw,
      set_of_getElem? hs]

/-- To put a widget in its own place leaves the form as it is. -/
theorem Form.replaceWidget_self {f : Form} {i j k : Nat} (hw : f.widgetAt? i j k = some w₀) :
    f.replaceWidget i j k w₀ = f := by
  obtain ⟨page, hpage, hw⟩ := Option.bind_eq_some_iff.mp hw
  obtain ⟨s, hs, hw⟩ := Option.bind_eq_some_iff.mp hw
  rw [replaceWidget, modify_eq_set hpage, Page.replaceWidget_self hs hw, set_of_getElem? hpage]

/-! ### Findings -/

theorem plain_widgetPlace (i j k : Nat) : (widgetPlace i j k).Plain where
  rooted := ⟨_, _, rfl⟩
  steps := by
    have names : PlainName "pages" ∧ PlainName "sections" ∧ PlainName "widgets" := by decide
    simpa [widgetPlace, Path.item, Path.field, Path.index, Path.root, Step.Plain] using names

/-- A finding is below a widget by its text exactly if it is by its path. -/
theorem Form.isBelow_finding_iff {f : Form} {v : Violation} (hv : v ∈ f.violations o)
    {i j k : Nat} : v.finding.IsBelow (widgetPlace i j k) ↔
      ∃ name rest, v.path.steps = (widgetPlace i j k).steps ++ .field name :: rest :=
  Path.render_dot_prefix_iff (plain_widgetPlace i j k) (plain_of_mem hv)

/-- What is reported on a widget is reported below its place. -/
theorem Widget.exists_of_mem {w : Widget} {v : Violation} (hv : v ∈ w.violations o p) :
    ∃ name rest, v.path.steps = p.steps ++ .field name :: rest := by
  obtain ⟨steps, hne, hsteps, hpoints⟩ := leads_of_mem hv
  cases hpoints with
  | here => exact absurd rfl hne
  | value => exact ⟨_, _, hsteps⟩
  | absent => exact ⟨_, _, hsteps⟩

section Filters

variable {vs : List Violation} {q : Finding → Bool}

/-- A filter that all findings pass changes nothing. -/
theorem filter_findings_eq_self (h : ∀ v ∈ vs, q v.finding = true) :
    (vs.map Violation.finding).filter q = vs.map Violation.finding :=
  List.filter_eq_self.mpr (List.forall_mem_map.mpr h)

/-- A filter that no finding passes leaves none. -/
theorem filter_findings_eq_nil (h : ∀ v ∈ vs, q v.finding = false) :
    (vs.map Violation.finding).filter q = [] :=
  List.filter_eq_nil_iff.mpr (List.forall_mem_map.mpr fun v hv => by simp [h v hv])

end Filters

section Parts

variable {f : Form} {i j k : Nat} {w : Widget} {before after : List Violation}
  (walk : (f.walk o).violations = before ++ w.violations o (widgetPlace i j k) ++ after)
  (outside : ∀ v ∈ before ++ after, ¬ (widgetPlace i j k).steps <+: v.path.steps)
include walk

/-- The reports on a form: around the widget, on it, and on identifiers used again. -/
theorem Form.violations_of_walk : f.violations o =
    before ++ w.violations o (widgetPlace i j k) ++ after ++ repeatedWidgets f.occurrences := by
  rw [← walk, walk_eq, violations_eq]

/-- The findings on the widget are in it. -/
theorem Form.isBelow_of_mem_widget :
    ∀ v ∈ w.violations o (widgetPlace i j k), v.finding.IsBelow (widgetPlace i j k) := by
  intro v hv
  have mem : v ∈ f.violations o := by
    rw [violations_of_walk walk]
    simp only [List.mem_append, hv, or_true, true_or]
  exact (isBelow_finding_iff mem).mpr (Widget.exists_of_mem hv)

include outside

/-- The findings around the widget are not in it. -/
theorem Form.not_isBelow_of_mem_others :
    ∀ v ∈ before ++ after, ¬ v.finding.IsBelow (widgetPlace i j k) := by
  intro v hv below
  have mem : v ∈ f.violations o := by
    rw [violations_of_walk walk]
    simp only [List.mem_append] at hv ⊢
    exact .inl (hv.imp_left .inl)
  obtain ⟨name, rest, steps⟩ := (isBelow_finding_iff mem).mp below
  exact outside v hv ⟨_, steps.symm⟩

/-- The findings outside of the widget do not mention it. -/
theorem Form.findings_outside :
    (f.report o).findings.filter (fun g => ¬ g.IsBelow (widgetPlace i j k)) =
      (before ++ after).map Violation.finding ++ ((repeatedWidgets f.occurrences).map
        Violation.finding).filter (fun g => ¬ g.IsBelow (widgetPlace i j k)) := by
  let q : Finding → Bool := fun g => ¬ g.IsBelow (widgetPlace i j k)
  have others : ∀ v ∈ before ++ after, q v.finding = true := fun v hv =>
    decide_eq_true (not_isBelow_of_mem_others walk outside v hv)
  have inside : ∀ v ∈ w.violations o (widgetPlace i j k), q v.finding = false := fun v hv =>
    decide_eq_false (not_not_intro (isBelow_of_mem_widget walk v hv))
  obtain ⟨hbefore, hafter⟩ := List.forall_mem_append.mp others
  rw [report, violations_of_walk walk, List.map_append, List.map_append, List.map_append,
    List.filter_append, List.filter_append, List.filter_append, filter_findings_eq_self hbefore,
    filter_findings_eq_nil inside, filter_findings_eq_self hafter, List.append_nil,
    List.map_append]

/-- The findings of the walk in the widget are those on the widget alone. -/
theorem Form.findings_inside :
    ((f.walk o).violations.map Violation.finding).filter
        (fun g => g.IsBelow (widgetPlace i j k)) =
      (w.violations o (widgetPlace i j k)).map Violation.finding := by
  let q : Finding → Bool := fun g => g.IsBelow (widgetPlace i j k)
  have others : ∀ v ∈ before ++ after, q v.finding = false := fun v hv =>
    decide_eq_false (not_isBelow_of_mem_others walk outside v hv)
  have inside : ∀ v ∈ w.violations o (widgetPlace i j k), q v.finding = true := fun v hv =>
    decide_eq_true (isBelow_of_mem_widget walk v hv)
  obtain ⟨hbefore, hafter⟩ := List.forall_mem_append.mp others
  rw [walk, List.map_append, List.map_append, List.filter_append, List.filter_append,
    filter_findings_eq_nil hbefore, filter_findings_eq_self inside,
    filter_findings_eq_nil hafter, List.nil_append, List.append_nil]

end Parts

/-- Another widget with the same identifier changes nothing that is reported outside it, and what is
reported inside is what is wrong with the widget. -/
theorem Form.findings_replaceWidget (o : Options) (f : Form) (i j k : Nat) (w₀ w : Widget)
    (hw : f.widgetAt? i j k = some w₀) (hid : w.id = w₀.id) :
    let place := widgetPlace i j k
    let f' := f.replaceWidget i j k w
    (f'.report o).findings.filter (fun g => ¬ g.IsBelow place) =
        (f.report o).findings.filter (fun g => ¬ g.IsBelow place) ∧
      ((f'.walk o).violations.map Violation.finding).filter (fun g => g.IsBelow place) =
        (w.violations o place).map Violation.finding := by
  intro place f'
  obtain ⟨before, after, outside, walk⟩ := around_walk (o := o) hw
  have changed : (f'.walk o).violations = before ++ w.violations o place ++ after := walk w hid
  -- the form is itself with its own widget put in
  have unchanged : (f.walk o).violations = before ++ w₀.violations o place ++ after := by
    have same := walk w₀ rfl
    simp only [replaceWidget_self hw] at same
    exact same
  refine ⟨?_, findings_inside changed outside⟩
  rw [findings_outside changed outside, findings_outside unchanged outside,
    occurrences_replaceWidget hw hid]

/-- A widget without its payload takes the place of one that is sound. -/
theorem Form.findings_replaceWidget_missing :
    let w₀ : Widget := { id := "w", body := .payload (.notes { content := "c", style := "info" }) }
    let w : Widget := { id := "w", body := .missing .notes, foreign := [.field] }
    let f : Form :=
      { pages := [{}, { sections := some [{ widgets := some [{ w₀ with id := "W" }, w₀] }] }] }
    let f' := f.replaceWidget 1 0 1 w
    (f.report {}).findings.length + 2 = (f'.report {}).findings.length ∧
      (f'.report {}).findings.filter (fun g => ¬ g.IsBelow (widgetPlace 1 0 1)) =
        (f.report {}).findings.filter (fun g => ¬ g.IsBelow (widgetPlace 1 0 1)) ∧
      ((f'.walk {}).violations.map Violation.finding).filter
          (fun g => g.IsBelow (widgetPlace 1 0 1)) =
        (w.violations {} (widgetPlace 1 0 1)).map Violation.finding := by
  intro w₀ w f f'
  exact ⟨by decide, findings_replaceWidget {} f 1 0 1 w₀ w rfl rfl⟩

end EntryForm
