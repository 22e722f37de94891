import Mathlib.Data.Finset.Card
import EntryForm.Proofs.Rules.Collection

/-!
# Proofs — Rules — names used again

The names of the elements of a list have to differ from one another.

* `NameList`: a list of names that are compared.  `Form.nameLists` are those of a form: of its
  pages, of the sections of each page, and of the lists of each payload.
* `NameList.repetitions`: the reports that are due on a list, one at each name that counts and that
  an element before has (`NameList.mem_repetitions`).  They are as many as the names that count,
  less the different ones among them (`NameList.length_repetitions_add`).
* `Marks l vs`: of the reports `vs`, those that a name of the list is used again are those due.
  `Spares l vs`: there are none.  The reports on siblings mark the list of their names
  (`marks_siblings`), and a list that one of them marks (`marks_element`).
* `…marks`, of each part of a form: its reports mark each of its lists.
* `Form.repeated_names`: so do the findings on a form.
-/

namespace EntryForm
open Rules

/-! ### Lists of names -/

/-- What the names of a list are: identifiers, or values to choose. -/
inductive NameSort where
  | identifier | choice
  deriving DecidableEq, Repr

/-- Is the name compared with the others?  Identifiers are unless they are empty, and values unless
they are blank. -/
def NameSort.Counts : NameSort → String → Prop
  | identifier, name => name ≠ ""
  | choice, name => Text.Legible name

instance (sort : NameSort) (name : String) : Decidable (sort.Counts name) :=
  match sort with
  | .identifier => inferInstanceAs (Decidable (name ≠ ""))
  | .choice => inferInstanceAs (Decidable (Text.Legible name))

/-- The names of the elements of a list. -/
structure NameList where
  /-- The record that has the list. -/
  owner : Path
  /-- The key of the list in the record. -/
  field : String
  /-- The key of the name in an element. -/
  key : String
  /-- What a report calls the name. -/
  what : String
  sort : NameSort
  names : List String
  deriving DecidableEq, Repr

namespace NameList

/-- Where the list is. -/
def path (l : NameList) : Path := l.owner.field l.field

/-- Where the name of element `n` is. -/
def place (l : NameList) (n : Nat) : Path := (l.path.index n).field l.key

/-- Is the name compared with the others? -/
def Counts (l : NameList) (name : String) : Prop := l.sort.Counts name

instance (l : NameList) (name : String) : Decidable (l.Counts name) :=
  inferInstanceAs (Decidable (l.sort.Counts name))

end NameList

/-- The names of the fields of the group at `p`. -/
def Group.names (p : Path) (g : Group) : NameList :=
  ⟨p, "fields", "id", "group field id", .identifier, g.fields.map GroupField.id⟩

/-- The names of the columns of the table at `p`. -/
def Table.names (p : Path) (t : Table) : NameList :=
  ⟨p, "columns", "id", "column id", .identifier, t.columns.map TableColumn.id⟩

/-- The names of the rows of the grid at `p`. -/
def Grid.rowNames (p : Path) (g : Grid) : NameList :=
  ⟨p, "rows", "id", "row id", .identifier, g.rows.map GridRow.id⟩

/-- The names of the columns of the grid at `p`. -/
def Grid.columnNames (p : Path) (g : Grid) : NameList :=
  ⟨p, "columns", "id", "column id", .identifier, g.columns.map GridColumn.id⟩

/-- The names of the items of the checklist at `p`. -/
def Checklist.names (p : Path) (c : Checklist) : NameList :=
  ⟨p, "items", "key", "item key", .identifier, c.items.map ChecklistItem.key⟩

/-- The values of the options of the choice at `p`. -/
def Choice.names (p : Path) (options : List Choice) : NameList :=
  ⟨p, "options", "value", "option value", .choice, options.map Choice.value⟩

/-- The lists of names in the payload at `p`. -/
def Payload.nameLists (p : Path) : Payload → List NameList
  | .group data => [data.names p]
  | .table data => [data.names p]
  | .grid data => [data.rowNames p, data.columnNames p]
  | .checklist data => [data.names p]
  | .radioGroup data => [Choice.names p data.options]
  | .checkboxGroup data => [Choice.names p data.options]
  | .field _ | .formHeader _ | .signature _ | .notes _ | .nestedChecklist _ | .timePicker _ => []

/-- The lists of names in the body of the widget at `p`. -/
def Body.nameLists (p : Path) : Body → List NameList
  | .payload data => data.nameLists (p.field data.kind.name)
  | .missing _ | .unknown _ => []

/-- The lists of names below the section at `p`. -/
def Section.nameLists (p : Path) (s : Section) : List NameList :=
  s.widgetList.zipIdx.flatMap fun (w, k) => w.body.nameLists (p.item "widgets" k)

/-- The names of the sections of the page at `p`. -/
def Page.sectionNames (p : Path) (page : Page) : NameList :=
  ⟨p, "sections", "id", "section id", .identifier, (page.sections.getD []).map Section.id⟩

/-- The lists of names below the page at `p`: of its sections, and below them. -/
def Page.nameLists (p : Path) (page : Page) : List NameList :=
  page.sectionNames p :: (page.sections.getD []).zipIdx.flatMap fun (s, j) =>
    s.nameLists (p.item "sections" j)

/-- The names of the pages of a form. -/
def Form.pageNames (f : Form) : NameList :=
  ⟨.root, "pages", "id", "page id", .identifier, f.pages.map Page.id⟩

/-- The lists of names in a form: of its pages, and below them. -/
def Form.nameLists (f : Form) : List NameList :=
  f.pageNames :: f.pages.zipIdx.flatMap fun (page, i) =>
    page.nameLists (Path.root.item "pages" i)

/-! ### The reports that are due -/

namespace NameList

variable (l : NameList)

/-- The report on the name of element `n`. -/
def due (n : Nat) (again : Bool) (name : String) : List Violation :=
  reportIf (again && decide (l.Counts name)) (l.place n) (.repeated l.what name)

/-- The reports on the names that are used again. -/
def repetitions : List Violation := siblings (fun name => name) l.due l.names

/-- The reports due are those on names that count and were met before. -/
theorem mem_repetitions {v : Violation} : v ∈ l.repetitions ↔ ∃ n name, l.names[n]? = some name ∧
    l.Counts name ∧ (∃ m < n, l.names[m]? = some name) ∧
      v = ⟨l.place n, .repeated l.what name⟩ := by
  have before {n : Nat} {name : String} :
      repeatsBefore (fun name => name) l.names n name = true ↔ ∃ m < n, l.names[m]? = some name := by
    rw [repeatsBefore_iff]
    constructor
    · rintro ⟨m, _, hm, hname, rfl⟩
      exact ⟨m, hm, hname⟩
    · rintro ⟨m, hm, hname⟩
      exact ⟨m, name, hm, hname, rfl⟩
  simp only [repetitions, mem_siblings, due, mem_reportIf, Bool.and_eq_true, decide_eq_true_eq,
    before, and_assoc, and_left_comm]

/-- A name that counts is reported exactly if it was met before. -/
theorem due_of_counts {name : String} (h : l.Counts name) (n : Nat) (again : Bool) :
    l.due n again name = if again then [⟨l.place n, .repeated l.what name⟩] else [] := by
  rw [due, decide_eq_true h, Bool.and_true, reportIf]

/-- A name that does not count is not reported. -/
theorem due_of_not_counts {name : String} (h : ¬ l.Counts name) (n : Nat) (again : Bool) :
    l.due n again name = [] := by
  rw [due, decide_eq_false h, Bool.and_false]
  rfl

/-- Of the elements that share a name that counts, the first is not reported and the others are. -/
theorem length_repetitions_add : l.repetitions.length + (l.names.filter l.Counts).toFinset.card =
    (l.names.filter l.Counts).length := by
  suffices ∀ names : List String, (siblings (fun name => name) l.due names).length +
      (names.filter l.Counts).toFinset.card = (names.filter l.Counts).length from this l.names
  intro names
  induction names using List.reverseRecOn with
  | nil => rfl
  | append_singleton names name ih =>
      rw [siblings_concat, List.map_id', List.length_append, List.filter_append,
        List.toFinset_append, List.length_append]
      by_cases counts : l.Counts name
      · have filtered : [name].filter l.Counts = [name] :=
          List.filter_cons_of_pos (decide_eq_true counts)
        have met : name ∈ (names.filter l.Counts).toFinset ↔ name ∈ names := by
          rw [List.mem_toFinset, List.mem_filter, and_iff_left (decide_eq_true counts)]
        rw [due_of_counts l counts, filtered, List.toFinset_cons, List.toFinset_nil,
          insert_empty_eq, Finset.union_singleton]
        by_cases known : name ∈ names
        · -- one report more, and no name
          rw [Finset.insert_eq_of_mem (met.mpr known), if_pos (decide_eq_true known),
            List.length_singleton, List.length_singleton, Nat.add_right_comm, ih]
        · -- one name more, and no report
          rw [Finset.card_insert_of_notMem (mt met.mp known), if_neg (by simpa using known),
            List.length_nil, List.length_singleton, Nat.add_zero, ← Nat.add_assoc, ih]
      · have filtered : [name].filter l.Counts = [] :=
          List.filter_cons_of_neg (by simpa using counts)
        rw [due_of_not_counts l counts, filtered, List.toFinset_nil, Finset.union_empty]
        exact ih

/-- The violation is that the name of an element is used again. -/
def Repeats (v : Violation) : Prop := v.kind = .duplicateIdentifier ∧ ∃ n, v.path = l.place n

noncomputable instance (v : Violation) : Decidable (l.Repeats v) := Classical.propDecidable _

theorem prefix_place (n : Nat) : l.path.steps <+: (l.place n).steps :=
  (l.path.prefix_index n).trans (Path.prefix_field _ _)

/-- Different elements have their names at different places. -/
theorem place_inj {m n : Nat} (h : l.place m = l.place n) : m = n := by
  have below : (l.path.index m).steps <+: (l.place n).steps := h ▸ (l.path.index m).prefix_field l.key
  exact Path.index_eq_of_below below ((l.path.index n).prefix_field l.key)

end NameList

namespace Rules

/-- None of the reports is that a name of the list is used again. -/
def Spares (l : NameList) (vs : List Violation) : Prop := ∀ v ∈ vs, ¬ l.Repeats v

/-- The reports that a name of the list is used again are those due. -/
def Marks (l : NameList) (vs : List Violation) : Prop :=
  vs.filter (fun v => l.Repeats v) = l.repetitions

variable {l : NameList} {p q : Path} {xs ys vs : List Violation} {name other : String}

/-- Where the list is spared nothing is left of it. -/
theorem Spares.filter_eq_nil (h : Spares l vs) : vs.filter (fun v => l.Repeats v) = [] :=
  List.filter_eq_nil_iff.mpr fun v hv => by simpa using h v hv

/-- Two lists of reports spare the names together if each does. -/
theorem Spares.append (hx : Spares l xs) (hy : Spares l ys) : Spares l (xs ++ ys) :=
  List.forall_mem_append.mpr ⟨hx, hy⟩

/-- Reports that spare the list may stand before those that mark it. -/
theorem Marks.append_left (hx : Spares l xs) (hy : Marks l ys) : Marks l (xs ++ ys) := by
  rw [Marks, List.filter_append, hx.filter_eq_nil, List.nil_append, hy]

/-- Reports that spare the list may stand behind those that mark it. -/
theorem Marks.append_right (hx : Marks l xs) (hy : Spares l ys) : Marks l (xs ++ ys) := by
  rw [Marks, List.filter_append, hy.filter_eq_nil, List.append_nil, hx]

/-! ### Reports on other values -/

/-- Reports of other kinds spare every list. -/
theorem spares_of_kind (h : ∀ v ∈ vs, v.kind ≠ .duplicateIdentifier) : Spares l vs :=
  fun v hv repeats => h v hv repeats.1

/-- Defects of values by themselves spare every list. -/
theorem spares_of_own (h : ∀ v ∈ vs, v.kind.layer = .own) : Spares l vs :=
  spares_of_kind fun v hv kind => by
    have own := h v hv
    rw [Violation.Kind.layer_eq_repetition_iff.mpr kind] at own
    cases own

/-- The report on one value spares every list. -/
theorem Single.spares (h : Single q vs) : Spares l vs :=
  spares_of_own fun v hv => (h.own v hv).2

/-- The reports stand below other fields of a record that the list is below. -/
theorem Below.spares {names : List String} (h : Below p names vs) (hname : name ∉ names)
    (hl : (p.field name).steps <+: l.path.steps) : Spares l vs := by
  rintro v hv ⟨-, n, path⟩
  exact h.not_mem hname (path ▸ hl.trans (l.prefix_place n)) hv

/-- The reports stand below another element of a list that the list is below. -/
theorem spares_of_index {i j : Nat} (hl : (q.index i).steps <+: l.path.steps) (hne : j ≠ i)
    (h : ∀ v ∈ vs, (q.index j).steps <+: v.path.steps) : Spares l vs := by
  rintro v hv ⟨-, n, path⟩
  have below := h v hv
  rw [path] at below
  exact hne (Path.index_eq_of_below below (hl.trans (l.prefix_place n)))

/-- The reports stand in an element of the list, and not at its name. -/
theorem spares_beside {i : Nat} (h : ∀ v ∈ vs, ∃ name ≠ l.key,
    ((l.path.index i).field name).steps <+: v.path.steps) : Spares l vs := by
  rintro v hv ⟨-, n, path⟩
  obtain ⟨name, hne, below⟩ := h v hv
  rw [path, NameList.place] at below
  obtain rfl := Path.index_eq_of_below ((Path.prefix_field _ _).trans below) (Path.prefix_field _ _)
  exact hne (Path.name_eq_of_below below (List.prefix_refl _))

/-! ### The elements of a list -/

variable {α : Type} {key : α → String} {check : Nat → Bool → α → List Violation} {zs : List α}

/-- The reports on siblings spare a list if those on each do. -/
theorem spares_siblings (h : ∀ i again x, Spares l (check i again x)) :
    Spares l (siblings key check zs) := by
  intro v hv
  obtain ⟨i, x, -, hv⟩ := mem_siblings.mp hv
  exact h i _ x v hv

/-- What is due is a report on the list. -/
theorem filter_due (i : Nat) (again : Bool) (name : String) :
    (l.due i again name).filter (fun v => l.Repeats v) = l.due i again name := by
  refine List.filter_eq_self.mpr fun v hv => decide_eq_true ?_
  obtain ⟨-, rfl⟩ := mem_reportIf.mp hv
  exact ⟨rfl, i, rfl⟩

/-- The reports on elements that are each reported as is due for their names. -/
theorem marks_siblings (names : l.names = zs.map key)
    (h : ∀ i again x, ∃ before after, check i again x = before ++ l.due i again (key x) ++ after ∧
      Spares l before ∧ Spares l after) : Marks l (siblings key check zs) := by
  suffices ∀ i seen, (siblingsFrom key check i seen zs).filter (fun v => l.Repeats v) =
      siblingsFrom (fun name => name) l.due i seen (zs.map key) by
    rw [Marks, NameList.repetitions, names]
    exact this 0 []
  clear names
  induction zs with
  | nil => exact fun _ _ => rfl
  | cons z rest ih =>
      intro i seen
      obtain ⟨before, after, here, hbefore, hafter⟩ := h i (seen.contains (key z)) z
      rw [siblingsFrom, List.map_cons, siblingsFrom, List.filter_append, ih, here,
        List.filter_append, List.filter_append, hbefore.filter_eq_nil, hafter.filter_eq_nil,
        List.nil_append, List.append_nil, filter_due]

/-- The reports on elements, one of which marks a list below it. -/
theorem marks_element {i : Nat} {x : α} (hx : zs[i]? = some x)
    (hl : (q.index i).steps <+: l.path.steps)
    (below : ∀ j again y, ∀ v ∈ check j again y, (q.index j).steps <+: v.path.steps)
    (h : ∀ again, Marks l (check i again x)) : Marks l (siblings key check zs) := by
  obtain ⟨before, after, split⟩ := List.append_of_mem (List.mk_mem_zipIdx_iff_getElem?.mpr hx)
  have numbers := pairwise_snd_lt_zipIdx zs
  rw [split, List.pairwise_append, List.pairwise_cons] at numbers
  obtain ⟨-, ⟨behind, -⟩, ahead⟩ := numbers
  have others (es : List (α × Nat)) (hes : ∀ e ∈ es, e.2 ≠ i) :
      Spares l (es.flatMap fun e => check e.2 (repeatsBefore key zs e.2 e.1) e.1) := by
    intro v hv
    obtain ⟨e, he, hv⟩ := List.mem_flatMap.mp hv
    exact spares_of_index hl (hes e he) (below e.2 _ e.1) v hv
  rw [siblings_eq_flatMap, split, List.flatMap_append, List.flatMap_cons]
  exact .append_left (others before fun e he => Nat.ne_of_lt (ahead e he _ List.mem_cons_self))
    (.append_right (h _) (others after fun e he => Nat.ne_of_gt (behind e he)))

/-- The check of an identifier among others gives the report that is due. -/
theorem notRepeated_eq_due (sort : l.sort = .identifier) (i : Nat) (again : Bool)
    (name : String) : notRepeated l.what name again (l.place i) = l.due i again name := by
  have counts : decide (l.Counts name) = !name.isEmpty := by
    rw [Bool.eq_iff_iff, decide_eq_true_iff, NameList.Counts, sort, Bool.not_eq_true',
      ← Bool.not_eq_true, String.isEmpty_iff]
    rfl
  rw [notRepeated, NameList.due, counts]

/-- The reports on elements that have a name of their own first of all. -/
theorem marks_named (sort : l.sort = .identifier) (names : l.names = zs.map key)
    (h : ∀ i again x, ∃ after, check i again x =
      localIdentifier l.what (key x) again (l.place i) ++ after ∧ Spares l after) :
    Marks l (siblings key check zs) := by
  refine marks_siblings names fun i again x => ?_
  obtain ⟨after, here, hafter⟩ := h i again x
  rw [← notRepeated_eq_due sort]
  exact ⟨_, after, here, (single_identifier _ _).spares, hafter⟩

end Rules

/-! ### Payloads -/

variable (p : Path)

/-- A group reports the fields with a name used again, as is due. -/
theorem Group.marks (g : Group) : Marks (g.names p) (g.violations p) := by
  refine .append_left (single_oneOf _ _ _).spares (marks_named rfl rfl fun i again f => ?_)
  have other : Spares (g.names p) (f.field.violations (p.item "fields" i)) := by
    refine spares_beside (i := i) fun v hv => ?_
    obtain ⟨name, hname, below⟩ := (f.field.below _).below v hv
    exact ⟨name, fun same => absurd (same ▸ hname) (by decide : "id" ∉ _), below⟩
  exact ⟨_, rfl, other⟩

theorem Table.marks (t : Table) : Marks (t.names p) (t.violations p) := by
  refine .append_right (.append_right (.append_right (.append_left (single_reportIf rfl).spares
    (marks_named rfl rfl fun i again c => ⟨_, List.append_assoc _ _ _, ?_⟩))
    (single_notNegative _).spares) (single_positive _ _).spares) ?_
  · exact (single_notBlank _ _).spares.append (single_oneOf _ _ _).spares
  · exact fun v hv => (single_ordered _ _ _ _).spares v (mem_gated hv).2

/-- A name in an element of another list of the record. -/
theorem spares_localIdentifier {l : NameList} {name other : String} (what value : String)
    (again : Bool) (i : Nat) (hl : (p.field name).steps <+: l.path.steps) (hne : other ≠ name) :
    Spares l (localIdentifier what value again ((p.item other i).field "id")) := by
  have id := within_localIdentifier (p := p.item other i) what value again (by decide : "id" ∈ _)
  refine (id.mono ((Path.prefix_index _ i).trans (Path.prefix_field _ _))).below.spares ?_ hl
  exact fun same => hne (List.mem_singleton.mp same).symm

/-- A grid reports its rows as is due; those of its columns are not mistaken for them. -/
theorem Grid.marks_rows (g : Grid) : Marks (g.rowNames p) (g.violations p) := by
  refine .append_right (marks_named rfl rfl fun i again r => ⟨_, rfl, (single_notBlank _ _).spares⟩)
    (spares_siblings fun i again c => ?_)
  have name := spares_localIdentifier p (l := g.rowNames p) "column id" c.id again i
    (List.prefix_refl _) (by decide : "columns" ≠ "rows")
  exact (name.append (single_notBlank _ _).spares).append (single_oneOf _ _ _).spares

/-- A grid reports its columns as is due; those of its rows are not mistaken for them. -/
theorem Grid.marks_columns (g : Grid) : Marks (g.columnNames p) (g.violations p) := by
  refine .append_left (spares_siblings fun i again r => ?_)
    (marks_named rfl rfl fun i again c => ⟨_, List.append_assoc _ _ _, ?_⟩)
  · have name := spares_localIdentifier p (l := g.columnNames p) "row id" r.id again i
      (List.prefix_refl _) (by decide : "rows" ≠ "columns")
    exact name.append (single_notBlank _ _).spares
  · exact (single_notBlank _ _).spares.append (single_oneOf _ _ _).spares

/-- A checklist reports the items with a key used again, as is due. -/
theorem Checklist.marks (c : Checklist) : Marks (c.names p) (c.violations p) :=
  .append_left (single_reportIf rfl).spares
    (marks_named rfl rfl fun _ _ _ => ⟨_, rfl, (single_notBlank _ _).spares⟩)

/-- Choices with a value used again are reported as is due: blank ones are not compared. -/
theorem Choice.marks (options : List Choice) :
    Marks (Choice.names p options) (Choice.listViolations (p.field "options") options) := by
  refine .append_left (single_reportIf rfl).spares (marks_siblings rfl fun i again c => ?_)
  have label : Spares (Choice.names p options) (notBlank "option label" c.label
      (((p.field "options").index i).field "label")) := (single_notBlank _ _).spares
  cases blank : Text.isBlank c.value with
  | true =>
      have due : (Choice.names p options).due i again c.value = [] :=
        NameList.due_of_not_counts _ (fun counts => by
          rw [(Text.isBlank_eq_false_iff _).mpr counts] at blank
          cases blank) i again
      rw [due]
      exact ⟨[⟨_, .empty "option value"⟩], _, rfl, (single_singleton rfl).spares, label⟩
  | false =>
      have due := NameList.due_of_counts (Choice.names p options)
        ((Text.isBlank_eq_false_iff _).mp blank) i again
      rw [due]
      exact ⟨[], _, rfl, (single_nil .root).spares, label⟩

theorem RadioGroup.marks (r : RadioGroup) :
    Marks (Choice.names p r.options) (r.violations p) := by
  refine .append_right (.append_right (Choice.marks p r.options) (single_oneOf _ _ _).spares)
    (Single.spares (q := p.field "default_value") ?_)
  split
  · exact single_nil _
  · exact single_reportIf rfl

theorem CheckboxGroup.marks (c : CheckboxGroup) :
    Marks (Choice.names p c.options) (c.violations p) := by
  refine .append_right (.append_right (.append_right (.append_right (.append_right
    (Choice.marks p c.options) (single_oneOf _ _ _).spares) (single_notNegative _).spares)
    (single_positive _ _).spares) ?_) (single_between _ _ _).spares
  exact fun v hv => (single_ordered _ _ _ _).spares v (mem_gated hv).2

/-- A payload reports each of its lists as is due. -/
theorem Payload.marks (o : Options) (data : Payload) :
    ∀ l ∈ data.nameLists p, Marks l (data.violations o p) := by
  cases data with
  | group data => exact List.forall_mem_singleton.mpr (data.marks p)
  | table data => exact List.forall_mem_singleton.mpr (data.marks p)
  | grid data =>
      exact List.forall_mem_cons.mpr
        ⟨data.marks_rows p, List.forall_mem_singleton.mpr (data.marks_columns p)⟩
  | checklist data => exact List.forall_mem_singleton.mpr (data.marks p)
  | radioGroup data => exact List.forall_mem_singleton.mpr (data.marks p)
  | checkboxGroup data => exact List.forall_mem_singleton.mpr (data.marks p)
  | field _ | formHeader _ | signature _ | notes _ | nestedChecklist _ | timePicker _ => nofun

/-! ### Where the lists are -/

/-- The list is one of the record at `p`, or of a record that plain steps lead to from there. -/
structure NameList.Stands (p : Path) (l : NameList) : Prop where
  owner : ∃ steps, l.owner.steps = p.steps ++ steps ∧ ∀ s ∈ steps, s.Plain
  list : PlainName l.field ∧ l.field ≠ "widgets"
  name : PlainName l.key

/-- A list of a record stands where its keys say. -/
theorem stands_of_keys {field key what : String} {sort : NameSort} {names : List String}
    (hfield : field ∈ ["pages", "sections", "fields", "columns", "rows", "items", "options"])
    (hkey : key ∈ ["id", "key", "value"]) :
    (⟨p, field, key, what, sort, names⟩ : NameList).Stands p where
  owner := ⟨[], (List.append_nil _).symm, nofun⟩
  list := by
    have lists : ∀ name ∈ ["pages", "sections", "fields", "columns", "rows", "items", "options"],
        PlainName name ∧ name ≠ "widgets" := by decide
    exact lists field hfield
  name := by
    have keys : ∀ name ∈ ["id", "key", "value"], PlainName name := by decide
    exact keys key hkey

variable {p} {l : NameList}

/-- A list stands below the record it is of. -/
theorem NameList.Stands.below (h : l.Stands p) : p.steps <+: l.path.steps := by
  obtain ⟨steps, owner, -⟩ := h.owner
  have above : p.steps <+: l.owner.steps := owner ▸ List.prefix_append _ _
  exact above.trans (Path.prefix_field _ _)

/-- A list of the record under a key is below the record that has the key. -/
theorem NameList.Stands.field {name : String} (h : l.Stands (p.field name))
    (hname : PlainName name) : l.Stands p where
  owner := by
    obtain ⟨steps, owner, plain⟩ := h.owner
    refine ⟨.field name :: steps, ?_, List.forall_mem_cons.mpr ⟨hname, plain⟩⟩
    rw [owner, Path.field, List.append_assoc]
    rfl
  list := h.list
  name := h.name

/-- A list of an element is below the list that has it. -/
theorem NameList.Stands.index {i : Nat} (h : l.Stands (p.index i)) : l.Stands p where
  owner := by
    obtain ⟨steps, owner, plain⟩ := h.owner
    refine ⟨.index i :: steps, ?_, List.forall_mem_cons.mpr ⟨trivial, plain⟩⟩
    rw [owner, Path.index, List.append_assoc]
    rfl
  list := h.list
  name := h.name

/-- The lists of a payload stand in it. -/
theorem Payload.stands {data : Payload} (hl : l ∈ data.nameLists p) : l.Stands p := by
  cases data with
  | group data | table data | checklist data | radioGroup data | checkboxGroup data =>
      obtain rfl := List.mem_singleton.mp hl
      exact stands_of_keys p (by decide) (by decide)
  | grid data =>
      obtain rfl | hl := List.mem_cons.mp hl
      · exact stands_of_keys p (by decide) (by decide)
      · obtain rfl := List.mem_singleton.mp hl
        exact stands_of_keys p (by decide) (by decide)
  | field _ | formHeader _ | signature _ | notes _ | nestedChecklist _ | timePicker _ => cases hl

theorem Body.stands {b : Body} (hl : l ∈ b.nameLists p) : l.Stands p := by
  cases b with
  | payload data =>
      have names : ∀ kind : Kind, PlainName kind.name := by
        intro kind
        cases kind <;> decide
      exact (Payload.stands hl).field (names _)
  | missing _ | unknown _ => cases hl

theorem Section.stands {s : Section} (hl : l ∈ s.nameLists p) : l.Stands p := by
  obtain ⟨⟨w, k⟩, -, hl⟩ := List.mem_flatMap.mp hl
  exact (Body.stands hl).index.field (by decide)

theorem Page.stands {page : Page} (hl : l ∈ page.nameLists p) : l.Stands p := by
  obtain rfl | hl := List.mem_cons.mp hl
  · exact stands_of_keys p (by decide) (by decide)
  · obtain ⟨⟨s, j⟩, -, hl⟩ := List.mem_flatMap.mp hl
    exact (Section.stands hl).index.field (by decide)

/-- The lists of a form stand in it. -/
theorem Form.stands {f : Form} (hl : l ∈ f.nameLists) : l.Stands .root := by
  obtain rfl | hl := List.mem_cons.mp hl
  · exact stands_of_keys .root (by decide) (by decide)
  · obtain ⟨⟨page, i⟩, -, hl⟩ := List.mem_flatMap.mp hl
    exact (Page.stands hl).index.field (by decide)

/-! ### Widgets, sections and pages -/

/-- A widget reports each list of its payload as is due, beside its identifier. -/
theorem Widget.marks (o : Options) {w : Widget} (hl : l ∈ w.body.nameLists p) :
    Marks l (w.violations o p) := by
  have body : Marks l (w.body.violations o p) := by
    cases hbody : w.body with
    | payload data =>
        rw [hbody] at hl
        exact Payload.marks _ o data l hl
    | missing _ | unknown _ =>
        rw [hbody] at hl
        cases hl
  refine .append_right (.append_left (single_identifier _ _).spares body) ?_
  split
  · exact spares_of_kind (List.forall_mem_map.mpr fun _ _ => Violation.Kind.noConfusion)
  · exact (single_nil p).spares

section Nodes

variable {what what' what'' id title : String} {again : Bool} {vs : List Violation}

/-- The reports on a node mark the lists below it that those on its own list do. -/
theorem marks_node (key : String) (hkey : key ∉ ["id", "title"])
    (hl : (p.field key).steps <+: l.path.steps)
    (h : Marks l vs) : Marks l (notRepeated what id again (p.field "id") ++
      (identifier what' id (p.field "id") ++ notBlank what'' title (p.field "title") ++ vs)) := by
  rw [← List.append_assoc, ← List.append_assoc]
  exact .append_left (below_nodeOwn.spares hkey hl) h

/-- The reports on a node, its name among its siblings left out, spare the list of these names. -/
theorem spares_node {i : Nat} (key : String) (hkey : key ≠ l.key)
    (h : ∀ v ∈ vs, ((l.path.index i).field key).steps <+: v.path.steps) :
    Spares l (identifier what id ((l.path.index i).field "id") ++
      notBlank what' title ((l.path.index i).field "title") ++ vs) :=
  ((single_identifier _ _).spares.append (single_notBlank _ _).spares).append
    (spares_beside fun v hv => ⟨key, hkey, h v hv⟩)

end Nodes

/-- A section among others says nothing of the names of sections but in its own turn. -/
theorem Section.spares (o : Options) (i : Nat) (hl : l.path = p.field "sections")
    (hkey : l.key = "id") (s : Section) : Spares l (s.violations o (p.item "sections" i)) := by
  rw [violations, Path.item, ← hl]
  refine spares_node "widgets" (by rw [hkey]; decide) fun v hv => ?_
  split at hv
  · obtain rfl := List.mem_singleton.mp hv
    exact List.prefix_refl _
  · obtain ⟨k, w, -, hv⟩ := mem_siblings.mp hv
    exact (Path.prefix_index _ k).trans (Widget.leads_of_mem hv).below

/-- A page among others says nothing of the names of pages but in its own turn. -/
theorem Page.spares (o : Options) (i : Nat) (hl : l.path = Path.root.field "pages")
    (hkey : l.key = "id") (page : Page) :
    Spares l (page.violations o (Path.root.item "pages" i)) := by
  rw [violations, Path.item, ← hl]
  refine spares_node "sections" (by rw [hkey]; decide) fun v hv => ?_
  split at hv
  · obtain rfl := List.mem_singleton.mp hv
    exact List.prefix_refl _
  · obtain ⟨k, s, -, hv⟩ := mem_siblings.mp hv
    exact (Path.prefix_index _ k).trans (Section.below_of_mem hv)

/-- A section among others reports each list in it as is due. -/
theorem Section.marks (o : Options) (i : Nat) (again : Bool) {s : Section}
    (hl : l ∈ s.nameLists (p.item "sections" i)) : Marks l (s.siblingViolations o p i again) := by
  obtain ⟨⟨w, k⟩, hw, hl⟩ := List.mem_flatMap.mp hl
  have below := (Body.stands hl).below
  refine marks_node "widgets" (by decide) ((Path.prefix_index _ k).trans below) ?_
  rw [List.mk_mem_zipIdx_iff_getElem?, widgetList] at hw
  cases hwidgets : s.widgets with
  | none =>
      rw [hwidgets] at hw
      cases hw
  | some widgets =>
      rw [hwidgets] at hw
      exact marks_element hw below (fun _ _ _ _ hv => (Widget.leads_of_mem hv).below)
        fun _ => Widget.marks o hl

/-- A page among others reports each list in it as is due. -/
theorem Page.marks (o : Options) (i : Nat) (again : Bool) {page : Page}
    (hl : l ∈ page.nameLists (Path.root.item "pages" i)) :
    Marks l (page.siblingViolations o i again) := by
  obtain rfl | hl := List.mem_cons.mp hl
  · refine marks_node "sections" (by decide) (List.prefix_refl _) ?_
    cases hsections : page.sections with
    | none =>
        have none : (page.sectionNames (Path.root.item "pages" i)).repetitions = [] := by
          rw [NameList.repetitions, sectionNames, hsections]
          rfl
        rw [Marks, none]
        exact (single_singleton rfl).spares.filter_eq_nil
    | some sections =>
        refine marks_siblings (by rw [sectionNames, hsections]; rfl) fun j again s => ?_
        exact ⟨[], _, by rw [← notRepeated_eq_due rfl]; rfl, (single_nil .root).spares,
          s.spares o j rfl rfl⟩
  · obtain ⟨⟨s, j⟩, hs, hl⟩ := List.mem_flatMap.mp hl
    have below := (Section.stands hl).below
    refine marks_node "sections" (by decide) ((Path.prefix_index _ j).trans below) ?_
    rw [List.mk_mem_zipIdx_iff_getElem?] at hs
    cases hsections : page.sections with
    | none =>
        rw [hsections] at hs
        cases hs
    | some sections =>
        rw [hsections] at hs
        exact marks_element hs below (fun _ _ _ _ hv => Section.below_of_mem hv)
          fun again => Section.marks o j again hl

/-! ### Forms -/

/-- The places of names in two lists are the same only if the lists have the same key. -/
theorem Path.list_inj {p q : Path} {name other key key' : String} {i j : Nat}
    (h : (p.item name i).field key = (q.item other j).field key') : name = other := by
  have steps : p.steps ++ [.field name, .index i, .field key] =
      q.steps ++ [.field other, .index j, .field key'] := by
    simpa [item, field, index] using h
  exact Step.field.inj (List.cons.inj (List.append_inj_right' steps rfl)).1

/-- The identifiers of widgets are in none of the lists. -/
theorem NameList.Stands.spares_repeatedWidgets (h : l.Stands .root) (f : Form) :
    Spares l (repeatedWidgets f.occurrences) := by
  rintro v hv ⟨-, n, place⟩
  obtain ⟨-, occurrence, ho, path⟩ := mem_repeatedWidgets hv
  rw [Form.occurrences_eq] at ho
  obtain ⟨⟨w, i, j, k⟩, -, rfl⟩ := List.mem_map.mp ho
  exact h.list.2 (Path.list_inj (path.trans place)).symm

/-- A form reports each list in it as is due. -/
theorem Form.marks (o : Options) {f : Form} (hl : l ∈ f.nameLists) :
    Marks l (f.violations o) := by
  have own : Spares l f.ownViolations := spares_of_own fun v hv => layer_of_own hv
  rw [violations_eq]
  refine .append_right (.append_left own ?_) ((stands hl).spares_repeatedWidgets f)
  obtain rfl | hl := List.mem_cons.mp hl
  · refine marks_siblings rfl fun i again page => ?_
    exact ⟨[], _, by rw [← notRepeated_eq_due rfl]; rfl, (single_nil .root).spares,
      page.spares o i rfl rfl⟩
  · obtain ⟨⟨page, i⟩, hpage, hl⟩ := List.mem_flatMap.mp hl
    exact marks_element (List.mk_mem_zipIdx_iff_getElem?.mp hpage) (Page.stands hl).below
      (fun _ _ _ _ hv => Page.below_of_mem hv) fun again => Page.marks o i again hl

/-- The place of a name in a form has a text of its own. -/
theorem Form.plain_place {f : Form} (hl : l ∈ f.nameLists) (n : Nat) : (l.place n).Plain where
  rooted := by
    obtain rfl | hl := List.mem_cons.mp hl
    · exact ⟨"pages", _, rfl⟩
    · obtain ⟨⟨page, i⟩, -, hl⟩ := List.mem_flatMap.mp hl
      obtain ⟨rest, steps⟩ := (Page.stands hl).below.trans (l.prefix_place n)
      exact ⟨"pages", _, steps.symm⟩
  steps := by
    have stands := Form.stands hl
    obtain ⟨steps, owner, plain⟩ := stands.owner
    have place : (l.place n).steps = steps ++ [.field l.field, .index n, .field l.key] := by
      simp [NameList.place, NameList.path, Path.field, Path.index, owner, Path.root]
    rw [place]
    refine List.forall_mem_append.mpr ⟨plain, ?_⟩
    simp [Step.Plain, stands.list.1, stands.name]

section Findings

variable {o : Options} {f : Form} (hl : l ∈ f.nameLists) {v : Violation} (hv : v ∈ f.violations o)
include hl hv

/-- What the text of a finding says is what the path of the violation does. -/
theorem Form.repeats_iff : l.Repeats v ↔
    v.kind = .duplicateIdentifier ∧ ∃ n, v.finding.path = (l.place n).render :=
  and_congr_right fun _ => exists_congr fun n =>
    (Path.render_inj (plain_of_mem hv) (plain_place hl n)).symm

/-- A finding that a name is used again is the one that is due there. -/
theorem Form.due_of_finding (kind : v.kind = .duplicateIdentifier) {n : Nat}
    (path : v.finding.path = (l.place n).render) : ∃ name, l.names[n]? = some name ∧
      l.Counts name ∧ ∃ m < n, l.names[m]? = some name := by
  have due : v ∈ l.repetitions := by
    rw [← marks o hl]
    exact List.mem_filter.mpr ⟨hv, decide_eq_true ((repeats_iff hl hv).mpr ⟨kind, n, path⟩)⟩
  have place := (Path.render_inj (plain_of_mem hv) (plain_place hl n)).mp path
  obtain ⟨m, name, hname, counts, before, rfl⟩ := l.mem_repetitions.mp due
  obtain rfl : m = n := l.place_inj place
  exact ⟨name, hname, counts, before⟩

end Findings

/-- A list of names in a form has findings that a name is used again at exactly the elements whose
name counts and is that of an element before, whatever else the form has.  So there are as many as
there are names that count, less the different ones among them. -/
theorem Form.repeated_names (o : Options) (f : Form) : ∀ l ∈ f.nameLists,
    (∀ n, (∃ g ∈ (f.report o).findings,
        g.kind = .duplicateIdentifier ∧ g.path = (l.place n).render) ↔
      ∃ name, l.names[n]? = some name ∧ l.Counts name ∧ ∃ m < n, l.names[m]? = some name) ∧
    ((f.report o).findings.filter fun g => g.kind = .duplicateIdentifier ∧
        ∃ n < l.names.length, g.path = (l.place n).render).length +
      (l.names.filter l.Counts).toFinset.card = (l.names.filter l.Counts).length := by
  intro l hl
  refine ⟨fun n => ⟨?_, ?_⟩, ?_⟩
  · rintro ⟨g, hg, kind, path⟩
    obtain ⟨v, hv, rfl⟩ := List.mem_map.mp hg
    exact due_of_finding hl hv kind path
  · rintro ⟨name, hname, counts, before⟩
    have due := l.mem_repetitions.mpr ⟨n, name, hname, counts, before, rfl⟩
    rw [← marks o hl] at due
    exact ⟨_, List.mem_map_of_mem (List.mem_filter.mp due).1, rfl, rfl⟩
  · rw [← l.length_repetitions_add, ← marks o hl, report, List.filter_map, List.length_map]
    congr 2
    refine List.filter_congr fun v hv => decide_eq_decide.mpr ?_
    rw [repeats_iff hl hv]
    refine and_congr_right fun kind => ⟨?_, ?_⟩
    · rintro ⟨n, -, path⟩
      exact ⟨n, path⟩
    · rintro ⟨n, path⟩
      obtain ⟨name, hname, -⟩ := due_of_finding hl hv kind path
      exact ⟨n, (List.getElem?_eq_some_iff.mp hname).1, path⟩

/-- Of the rows of a grid, three have names that are used again, one of them a malformed one; the
empty names and the column of the same name do not count. -/
theorem Form.repeated_names_rows :
    let ids := ["r", "", "R 2", "r", "", "R 2", "r"]
    let grid : Grid := { rows := ids.map fun id => { id }, columns := [{ id := "r" }] }
    let w : Widget := { id := "w", body := .payload (.grid grid) }
    let f : Form := { pages := [{ sections := some [{ widgets := some [w] }] }] }
    let l := grid.rowNames ((widgetPlace 0 0 0).field "grid")
    l ∈ f.nameLists ∧
      (∃ g ∈ (f.report {}).findings, g.kind = .duplicateIdentifier ∧
        g.path = "pages[0].sections[0].widgets[0].grid.rows[5].id") ∧
      ((f.report {}).findings.filter fun g => g.kind = .duplicateIdentifier ∧
        ∃ n < l.names.length, g.path = (l.place n).render).length = 3 := by
  intro ids grid w f l
  have hl : l ∈ f.nameLists := by decide
  obtain ⟨reported, count⟩ := repeated_names {} f l hl
  have place : (l.place 5).render = "pages[0].sections[0].widgets[0].grid.rows[5].id" := by decide
  refine ⟨hl, place ▸ (reported 5).mpr ⟨"R 2", rfl, by decide, 2, by decide, rfl⟩, ?_⟩
  have names : (l.names.filter l.Counts).toFinset.card = 2 ∧
      (l.names.filter l.Counts).length = 5 := by decide
  rw [names.1, names.2] at count
  exact Nat.add_right_cancel count

end EntryForm
