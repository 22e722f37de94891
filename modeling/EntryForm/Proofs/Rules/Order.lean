import EntryForm.Proofs.Rules.Apart

/-!
# Proofs — Rules — reports in order

The reports of a walk come in the order of the document.

* `Violation.NotAfter`: where two paths go into different elements of one list, the first goes into
  an earlier one.
* `Block place vs`: the reports below the place follow one another.
* `Orderly p vs`: the reports `vs` on the value at `p` are in order, and those below each element of
  a list are a block.  This holds of reports that go into no list (`Flat`), and reports that are
  orderly may follow one another if their paths part at `p`, at two fields or at two elements in
  order (`Orderly.append`).
* `…orderly`, of each record: its reports are orderly.
* `Form.walk_ordered`: so are those of the walk over a form, which a report has first.
-/

namespace EntryForm
open Rules

/-! ### Order and blocks -/

/-- Where the paths go into elements of one list, that of the first is no later. -/
def Violation.NotAfter (u v : Violation) : Prop :=
  ∀ (list : List Step) (i j : Nat), list ++ [.index i] <+: u.path.steps →
    list ++ [.index j] <+: v.path.steps → i ≤ j

namespace Rules

/-- The reports below the place follow one another. -/
def Block (place : List Step) (vs : List Violation) : Prop :=
  ∃ before block after, vs = before ++ block ++ after ∧
    (∀ v ∈ block, place <+: v.path.steps) ∧ ∀ v ∈ before ++ after, ¬ place <+: v.path.steps

section Blocks

variable {place : List Step} {xs ys : List Violation}

theorem block_of_forall (h : ∀ v ∈ xs, place <+: v.path.steps) : Block place xs :=
  ⟨[], xs, [], by simp, h, nofun⟩

theorem block_of_forall_not (h : ∀ v ∈ xs, ¬ place <+: v.path.steps) : Block place xs :=
  ⟨xs, [], [], by simp, nofun, by simpa using h⟩

/-- Other reports may stand before those below the place. -/
theorem Block.append_left (h : Block place ys) (hx : ∀ v ∈ xs, ¬ place <+: v.path.steps) :
    Block place (xs ++ ys) := by
  obtain ⟨before, block, after, rfl, inside, outside⟩ := h
  refine ⟨xs ++ before, block, after, by simp only [List.append_assoc], inside, ?_⟩
  rw [List.append_assoc]
  exact List.forall_mem_append.mpr ⟨hx, outside⟩

/-- Other reports may stand behind those below the place. -/
theorem Block.append_right (h : Block place xs) (hy : ∀ v ∈ ys, ¬ place <+: v.path.steps) :
    Block place (xs ++ ys) := by
  obtain ⟨before, block, after, rfl, inside, outside⟩ := h
  refine ⟨before, block, after ++ ys, by simp only [List.append_assoc], inside, ?_⟩
  rw [← List.append_assoc]
  exact List.forall_mem_append.mpr ⟨outside, hy⟩

end Blocks

/-! ### Reports that may follow one another -/

/-- The paths, both below `p`, go into one list together only above `p`, or into elements of a list
in order. -/
def Follows (p : Path) (u v : Violation) : Prop :=
  ∀ (list : List Step) (i j : Nat), list ++ [.index i] <+: u.path.steps →
    list ++ [.index j] <+: v.path.steps → list ++ [.index i] <+: p.steps ∨ i < j

/-- The reports on the value at `p` are in order, and those below each element of a list follow one
another. -/
structure Orderly (p : Path) (vs : List Violation) : Prop where
  within : ∀ v ∈ vs, p.steps <+: v.path.steps
  ordered : vs.Pairwise Violation.NotAfter
  block : ∀ (list : List Step) (i : Nat), Block (list ++ [.index i]) vs

variable {p q : Path} {u v : Violation} {xs ys : List Violation}

/-- Reports in order on a value are in order on all that holds it. -/
theorem Orderly.mono (h : Orderly q xs) (hp : p.steps <+: q.steps) : Orderly p xs where
  within v hv := hp.trans (h.within v hv)
  ordered := h.ordered
  block := h.block

/-- Reports in order may follow one another if each of the later ones may follow each before. -/
theorem Orderly.append (hx : Orderly p xs) (hy : Orderly p ys)
    (h : ∀ u ∈ xs, ∀ v ∈ ys, Follows p u v) : Orderly p (xs ++ ys) where
  within := List.forall_mem_append.mpr ⟨hx.within, hy.within⟩
  ordered := by
    refine List.pairwise_append.mpr ⟨hx.ordered, hy.ordered, fun u hu v hv list i j hi hj => ?_⟩
    obtain above | lt := h u hu v hv list i j hi hj
    · have same := Path.step_eq_of_below (above.trans (hy.within v hv)) hj
      exact Nat.le_of_eq (Step.index.inj same)
    · exact Nat.le_of_lt lt
  block list i := by
    by_cases inX : ∃ u ∈ xs, list ++ [.index i] <+: u.path.steps
    · by_cases inY : ∃ v ∈ ys, list ++ [.index i] <+: v.path.steps
      · -- reports on both sides are below the element only if `p` is
        obtain ⟨u, hu, hi⟩ := inX
        obtain ⟨v, hv, hj⟩ := inY
        have above := (h u hu v hv list i i hi hj).resolve_right (Nat.lt_irrefl i)
        exact block_of_forall (List.forall_mem_append.mpr
          ⟨fun w hw => above.trans (hx.within w hw), fun w hw => above.trans (hy.within w hw)⟩)
      · exact (hx.block list i).append_right fun v hv hj => inY ⟨v, hv, hj⟩
    · exact (hy.block list i).append_left fun u hu hi => inX ⟨u, hu, hi⟩

/-! ### Reports that go into no list -/

/-- The reports on the value at `p` go into no list in it. -/
def Flat (p : Path) (vs : List Violation) : Prop :=
  ∀ v ∈ vs, p.steps <+: v.path.steps ∧ ∀ (list : List Step) (i : Nat),
    list ++ [.index i] <+: v.path.steps → list ++ [.index i] <+: p.steps

theorem flat_nil (p : Path) : Flat p [] := nofun

/-- Two lists of reports go into no list together if neither does. -/
theorem Flat.append (hx : Flat p xs) (hy : Flat p ys) : Flat p (xs ++ ys) :=
  List.forall_mem_append.mpr ⟨hx, hy⟩

/-- Reports on a value itself go into no list in it. -/
theorem flat_of_path (h : ∀ v ∈ xs, v.path = p) : Flat p xs := by
  intro v hv
  rw [h v hv]
  exact ⟨List.prefix_refl _, fun _ _ hi => hi⟩

/-- A further field goes into no list. -/
theorem Flat.field {name : String} (h : Flat (p.field name) xs) : Flat p xs := by
  intro v hv
  obtain ⟨within, level⟩ := h v hv
  refine ⟨(p.prefix_field name).trans within, fun list i hi => ?_⟩
  obtain same | above := List.prefix_concat_iff.mp (level list i hi)
  · cases (List.append_inj' same rfl).2
  · exact above

theorem flat_singleton (name : String) (c : Cause) : Flat p [⟨p.field name, c⟩] :=
  (flat_of_path (List.forall_mem_singleton.mpr rfl)).field

/-- The report on a value under a key goes into no list. -/
theorem Single.flat {name : String} (h : Single (p.field name) xs) : Flat p xs :=
  (flat_of_path fun v hv => (h.own v hv).1).field

theorem flat_notRepeated (what value name : String) (again : Bool) :
    Flat p (notRepeated what value again (p.field name)) :=
  (flat_of_path fun _ hv => (mem_notRepeated hv).1).field

/-- The reports on a local name go into no list. -/
theorem flat_localIdentifier (what value name : String) (again : Bool) :
    Flat p (localIdentifier what value again (p.field name)) :=
  (flat_of_path fun _ hv => (mem_localIdentifier hv).1).field

theorem flat_gated {gate : Bool} (h : Flat p xs) : Flat p (if gate then xs else []) :=
  fun v hv => h v (mem_gated hv).2

theorem orderly_singleton (h : p.steps <+: v.path.steps) : Orderly p [v] where
  within := List.forall_mem_singleton.mpr h
  ordered := List.pairwise_singleton _ v
  block list i := by
    by_cases inside : list ++ [.index i] <+: v.path.steps
    · exact block_of_forall (List.forall_mem_singleton.mpr inside)
    · exact block_of_forall_not (List.forall_mem_singleton.mpr inside)

theorem orderly_nil (p : Path) : Orderly p [] := ⟨nofun, .nil, fun _ _ => block_of_forall nofun⟩

/-- Reports that go into no list are in order. -/
theorem Flat.orderly (h : Flat p xs) : Orderly p xs := by
  induction xs with
  | nil => exact orderly_nil p
  | cons v rest ih =>
      obtain ⟨first, others⟩ := List.forall_mem_cons.mp h
      refine (orderly_singleton first.1).append (ih others) fun u hu w _ list i j hi _ => ?_
      rw [List.mem_singleton.mp hu] at hi
      exact .inl (first.2 list i hi)

/-- Reports that go into no list may stand behind those in order. -/
theorem Orderly.append_flat (hx : Orderly p xs) (hy : Flat p ys) : Orderly p (xs ++ ys) := by
  refine hx.append hy.orderly fun u hu v hv list i j hi hj => ?_
  have above := (hy v hv).2 list j hj
  have same := Path.step_eq_of_below hi (above.trans (hx.within u hu))
  exact .inl (Step.index.inj same ▸ above)

end Rules

/-- Paths that part behind some steps go into one list together only above, or right there. -/
theorem Path.above_or_here {steps list x y : List Step} {s t : Step} {i j : Nat}
    (hs : steps ++ [s] <+: x) (ht : steps ++ [t] <+: y) (parts : s ≠ t)
    (hi : list ++ [.index i] <+: x) (hj : list ++ [.index j] <+: y) :
    list ++ [.index i] <+: steps ∨ s = .index i ∧ t = .index j := by
  obtain lt | same | gt := Nat.lt_trichotomy list.length steps.length
  · exact .inl (List.prefix_of_prefix_length_le hi ((List.prefix_append _ _).trans hs) (by simpa))
  · have here {s r : Step} {z : List Step} (hs : steps ++ [s] <+: z) (hr : list ++ [r] <+: z) :
        s = r := by
      have both := (List.prefix_of_prefix_length_le hs hr (by simp [same])).eq_of_length
        (by simp [same])
      exact List.singleton_inj.mp (List.append_inj_right both same.symm)
    exact .inr ⟨here hs hi, here ht hj⟩
  · -- the list is below the first of the two steps, so it is not below the second
    have below : steps ++ [s] <+: list :=
      List.prefix_of_prefix_length_le hs ((List.prefix_append _ _).trans hi) (by simpa)
    exact absurd (step_eq_of_below (below.trans ((List.prefix_append _ _).trans hj)) ht) parts

namespace Rules

variable {p q : Path} {u v : Violation} {xs ys : List Violation}

/-- Reports under different keys may follow one another. -/
theorem follows_of_fields {name other : String} (hu : (p.field name).steps <+: u.path.steps)
    (hv : (p.field other).steps <+: v.path.steps) (hne : name ≠ other) : Follows p u v := by
  intro list i j hi hj
  have parts : Step.field name ≠ .field other := fun same => hne (Step.field.inj same)
  exact (Path.above_or_here hu hv parts hi hj).imp_right fun here => Step.noConfusion here.1

/-- A report on a later element may follow one on an earlier. -/
theorem follows_of_indexes {k l : Nat} (hu : (q.index k).steps <+: u.path.steps)
    (hv : (q.index l).steps <+: v.path.steps) (lt : k < l) : Follows q u v := by
  intro list i j hi hj
  have parts : Step.index k ≠ .index l := fun same => Nat.ne_of_lt lt (Step.index.inj same)
  refine (Path.above_or_here hu hv parts hi hj).imp_right fun here => ?_
  rwa [← Step.index.inj here.1, ← Step.index.inj here.2]

/-- The report is on the record at `p`, and not on what is in a list below the field. -/
def Beside (p : Path) (name : String) (u : Violation) : Prop :=
  Flat p [u] ∨ ∃ other ≠ name, (p.field other).steps <+: u.path.steps

/-- Reports that go into no list are beside every list. -/
theorem Flat.beside {name : String} (h : Flat p xs) : ∀ u ∈ xs, Beside p name u :=
  fun u hu => .inl (List.forall_mem_singleton.mpr (h u hu))

/-- Reports under another key are beside the list. -/
theorem Orderly.beside {name other : String} (h : Orderly (p.field other) xs) (hne : other ≠ name) :
    ∀ u ∈ xs, Beside p name u :=
  fun u hu => .inr ⟨other, hne, h.within u hu⟩

/-- The reports on what is below a field follow those beside it. -/
theorem Orderly.append_below (name : String) (hx : Orderly p xs) (hy : Orderly (p.field name) ys)
    (h : ∀ u ∈ xs, Beside p name u) : Orderly p (xs ++ ys) := by
  refine hx.append (hy.mono (p.prefix_field name)) fun u hu v hv => ?_
  obtain flat | ⟨other, hne, below⟩ := h u hu
  · exact fun list i j hi _ => .inl ((flat u (List.mem_singleton_self u)).2 list i hi)
  · exact follows_of_fields below (hy.within v hv) hne

/-- Reports in order on a list may follow those that go into none. -/
theorem Flat.append_below (name : String) (hx : Flat p xs) (hy : Orderly (p.field name) ys) :
    Orderly p (xs ++ ys) :=
  hx.orderly.append_below name hy hx.beside

/-! ### The elements of a list -/

/-- The reports are orderly, and on elements of the list at `q` from position `i` on. -/
structure OrderlyFrom (q : Path) (i : Nat) (vs : List Violation) : Prop where
  orderly : Orderly q vs
  positions : ∀ v ∈ vs, ∃ j, i ≤ j ∧ (q.index j).steps <+: v.path.steps

theorem orderlyFrom_nil (q : Path) (i : Nat) : OrderlyFrom q i [] := ⟨orderly_nil q, nofun⟩

/-- The reports on an element come before those on the elements behind it. -/
theorem OrderlyFrom.cons {i : Nat} (first : Orderly (q.index i) xs)
    (others : OrderlyFrom q (i + 1) ys) : OrderlyFrom q i (xs ++ ys) where
  orderly := by
    refine (first.mono (q.prefix_index i)).append others.orderly fun u hu v hv => ?_
    obtain ⟨j, lt, below⟩ := others.positions v hv
    exact follows_of_indexes (first.within u hu) below lt
  positions := by
    refine List.forall_mem_append.mpr
      ⟨fun u hu => ⟨i, Nat.le_refl i, first.within u hu⟩, fun v hv => ?_⟩
    obtain ⟨j, lt, below⟩ := others.positions v hv
    exact ⟨j, Nat.le_of_lt lt, below⟩

/-- Siblings are reported on in their order, each in one go. -/
theorem orderly_siblings {α : Type} {key : α → String} {check : Nat → Bool → α → List Violation}
    (h : ∀ i again x, Orderly (q.index i) (check i again x)) (zs : List α) :
    Orderly q (siblings key check zs) := by
  suffices ∀ i seen, OrderlyFrom q i (siblingsFrom key check i seen zs) from (this 0 []).orderly
  induction zs with
  | nil => exact fun i _ => orderlyFrom_nil q i
  | cons z rest ih => exact fun i _ => .cons (h i _ z) (ih (i + 1) _)

end Rules

/-! ### Payloads without nesting -/

variable (p : Path)

/-- A field has no lists: its options are reported on as a whole. -/
theorem Field.flat (f : Field) : Flat p (f.violations p) := by
  have bound : Flat p (f.boundViolations p) := by
    unfold boundViolations
    split
    · exact (single_reportIf rfl).flat
    · exact flat_nil p
  have pattern : Flat p (f.patternViolations p) := by
    unfold patternViolations
    split
    · exact flat_nil p
    · split
      · exact flat_nil p
      · exact (single_singleton rfl).flat
  have lengths : Flat p (f.lengthViolations p) :=
    ((single_notNegative _).flat.append (single_notNegative _).flat).append
      (flat_gated (single_ordered _ _ _ _).flat)
  exact ((((single_oneOf _ _ _).flat.append bound).append lengths).append pattern).append
    (single_reportIf rfl).flat

/-- A group is reported on in order, its fields one after the other. -/
theorem Group.orderly (g : Group) : Orderly p (g.violations p) := by
  refine (single_oneOf _ _ _).flat.append_below "fields" (orderly_siblings (fun i again f => ?_) _)
  exact ((flat_localIdentifier _ _ _ again).append (f.field.flat _)).orderly

/-- An element that has a name of its own and a label. -/
theorem flat_labelled (key what what' id label : String) (again : Bool) :
    Flat p (localIdentifier what id again (p.field key) ++ notBlank what' label (p.field "label")) :=
  (flat_localIdentifier _ _ _ again).append (single_notBlank _ _).flat

/-- A column of a table or of a grid. -/
theorem flat_column (what what' what'' id label type : String) (again : Bool) :
    Flat p (localIdentifier what id again (p.field "id") ++ notBlank what' label (p.field "label") ++
      oneOf what'' Field.types type (p.field "field_type")) :=
  (flat_labelled p _ _ _ _ _ again).append (single_oneOf _ _ _).flat

theorem Table.orderly (t : Table) : Orderly p (t.violations p) := by
  refine ((((single_reportIf rfl).flat.append_below "columns"
    (orderly_siblings (fun i again c => ?_) _)).append_flat (single_notNegative _).flat).append_flat
    (single_positive _ _).flat).append_flat (flat_gated (single_ordered _ _ _ _).flat)
  exact (flat_column _ _ _ _ _ _ _ again).orderly

/-- A grid is reported on in order, its rows before its columns. -/
theorem Grid.orderly (g : Grid) : Orderly p (g.violations p) := by
  have rows : Orderly (p.field "rows") (siblings GridRow.id (fun i again r =>
      localIdentifier "row id" r.id again ((p.item "rows" i).field "id") ++
      notBlank "row label" r.label ((p.item "rows" i).field "label")) g.rows) :=
    orderly_siblings (fun i again r => (flat_labelled _ _ _ _ _ _ again).orderly) _
  refine (rows.mono (p.prefix_field _)).append_below "columns"
    (orderly_siblings (fun i again c => ?_) _) (rows.beside (by decide))
  exact (flat_column _ _ _ _ _ _ _ again).orderly

theorem Checklist.orderly (c : Checklist) : Orderly p (c.violations p) := by
  refine (single_reportIf rfl).flat.append_below "items"
    (orderly_siblings (fun i again item => ?_) _)
  exact (flat_labelled _ _ _ _ _ _ again).orderly

theorem Header.flat (h : Header) : Flat p (h.violations p) :=
  (((((single_atMostChars _ _).flat.append (single_atMostChars _ _).flat).append
    (single_atMostChars _ _).flat).append (single_atMostChars _ _).flat).append
    (single_atMostChars _ _).flat).append (single_atMostChars _ _).flat

theorem Signature.flat (s : Signature) : Flat p (s.violations p) :=
  ((single_between _ _ _).flat.append (single_between _ _ _).flat).append (single_oneOf _ _ _).flat

theorem Notes.flat (n : Notes) : Flat p (n.violations p) :=
  (single_notBlank _ _).flat.append (single_oneOf _ _ _).flat

theorem Choice.flat_value (c : Choice) (again : Bool) : Flat p
    (if Text.isBlank c.value then [⟨p.field "value", .empty "option value"⟩]
      else reportIf again (p.field "value") (.repeated "option value" c.value)) := by
  split
  · exact (single_singleton rfl).flat
  · exact (flat_of_path fun v hv => (repeated_of_mem rfl hv).1).field

theorem Choice.orderly_list (options : List Choice) : Orderly p (listViolations p options) := by
  have none : Flat p (reportIf options.isEmpty p (.emptyCollection .choices)) :=
    flat_of_path fun v hv => ((single_reportIf rfl).own v hv).1
  refine none.orderly.append (orderly_siblings (fun i again c => ?_) _) fun u hu v _ list i j hi _ =>
    .inl ((none u hu).2 list i hi)
  exact ((c.flat_value _ again).append (single_notBlank _ _).flat).orderly

theorem RadioGroup.orderly (r : RadioGroup) : Orderly p (r.violations p) := by
  refine (((Choice.orderly_list _ _).mono (p.prefix_field "options")).append_flat
    (single_oneOf _ _ _).flat).append_flat ?_
  split
  · exact flat_nil p
  · exact (single_reportIf rfl).flat

/-- A checkbox group is reported on in order, its choices one after the other. -/
theorem CheckboxGroup.orderly (c : CheckboxGroup) : Orderly p (c.violations p) :=
  ((((((Choice.orderly_list _ _).mono (p.prefix_field "options")).append_flat
    (single_oneOf _ _ _).flat).append_flat (single_notNegative _).flat).append_flat
    (single_positive _ _).flat).append_flat (flat_gated (single_ordered _ _ _ _).flat)).append_flat
    (single_between _ _ _).flat

theorem TimePicker.flat (t : TimePicker) : Flat p (t.violations p) := by
  have order : Flat p (t.orderViolations p) := by
    unfold orderViolations
    split
    · exact (single_reportIf rfl).flat
    · exact flat_nil p
  exact (((((single_oneOf _ _ _).flat.append (single_between _ _ _).flat).append
    (single_timeOfDay _ _ _).flat).append (single_timeOfDay _ _ _).flat).append
    (single_timeOfDay _ _ _).flat).append (flat_gated order)

/-! ### Nested checklists -/

theorem NestedItem.flat_own (item : NestedItem) (again : Bool) :
    Flat p (item.ownViolations p again) :=
  (flat_labelled p _ _ _ _ _ again).append (single_oneOf _ _ _).flat

mutual

/-- An item is reported on before its children, and they in order. -/
theorem NestedItem.orderly (ceiling depth : Nat) (p : Path) (keys : List String) :
    ∀ item : NestedItem, Orderly p (item.walk ceiling depth p keys).violations
  | .mk key label itemType required children => by
    rw [walk]
    split
    · exact (flat_own p _ _).orderly
    · split
      · exact ((flat_own p _ _).append (single_singleton rfl).flat).orderly
      · exact (flat_own p _ _).append_below "children"
          (orderlyFrom ceiling (depth + 1) _ 0 _ children).orderly

/-- Items are reported on in their order, each with all below it. -/
theorem NestedItem.orderlyFrom (ceiling depth : Nat) (q : Path) (i : Nat) (keys : List String) :
    ∀ items : List NestedItem, OrderlyFrom q i (walkList ceiling depth q i keys items).violations
  | [] => by
    rw [walkList]
    exact orderlyFrom_nil q i
  | item :: rest => by
    rw [walkList]
    exact .cons (orderly ceiling depth _ keys item) (orderlyFrom ceiling depth q (i + 1) _ rest)

end

/-- The items of a checklist are reported on in order, whatever the ceiling. -/
theorem NestedChecklist.orderly_items (ceiling : Nat) (items : List NestedItem) :
    Orderly p (itemViolations ceiling p items) := by
  unfold itemViolations
  split
  · exact orderly_nil p
  · split
    · exact orderly_singleton (List.prefix_refl _)
    · exact (NestedItem.orderlyFrom ceiling 1 p 0 [] items).orderly

theorem NestedChecklist.orderly (ceiling : Nat) (c : NestedChecklist) :
    Orderly p (c.violations ceiling p) :=
  (((single_reportIf rfl).flat.append (single_oneOf _ _ _).flat).append
    (single_between _ _ _).flat).append_below "items" (orderly_items _ ceiling c.items)

/-! ### Widgets, sections and pages -/

/-- A payload is reported on in order, whatever its kind. -/
theorem Payload.orderly (o : Options) (data : Payload) : Orderly p (data.violations o p) := by
  cases data with
  | field data => exact (data.flat p).orderly
  | group data => exact data.orderly p
  | table data => exact data.orderly p
  | grid data => exact data.orderly p
  | checklist data => exact data.orderly p
  | formHeader data => exact (data.flat p).orderly
  | signature data => exact (data.flat p).orderly
  | notes data => exact (data.flat p).orderly
  | nestedChecklist data => exact data.orderly p o.ceiling
  | radioGroup data => exact data.orderly p
  | checkboxGroup data => exact data.orderly p
  | timePicker data => exact (data.flat p).orderly

/-- A widget is reported on in order: its identifier, its body and foreign payloads. -/
theorem Widget.orderly (o : Options) (w : Widget) : Orderly p (w.violations o p) := by
  have body : Orderly p (identifier "widget id" w.id (p.field "id") ++ w.body.violations o p) := by
    have id := (single_identifier (q := p.field "id") "widget id" w.id).flat
    cases w.body with
    | payload data => exact id.append_below data.kind.name (data.orderly _ o)
    | missing kind => exact (id.append (single_singleton rfl).flat).orderly
    | unknown raw =>
        simp only [Body.violations]
        split
        · exact (id.append (single_singleton rfl).flat).orderly
        · exact (id.append (single_singleton rfl).flat).orderly
  refine body.append_flat ?_
  split
  · exact List.forall_mem_map.mpr fun kind _ => flat_singleton kind.name _ _ (List.mem_singleton_self _)
  · exact flat_nil p

/-- The reports on a node, with those on the list below it. -/
theorem orderly_node {what what' what'' id title : String} {again : Bool} {vs : List Violation}
    (key : String) (h : Orderly (p.field key) vs) :
    Orderly p (notRepeated what id again (p.field "id") ++
      (identifier what' id (p.field "id") ++ notBlank what'' title (p.field "title") ++ vs)) := by
  rw [← List.append_assoc]
  exact ((flat_notRepeated _ _ _ again).append
    ((single_identifier _ _).flat.append (single_notBlank _ _).flat)).append_below key h

variable {p}

/-- A section among others is reported on in order, its widgets one after the other. -/
theorem Section.orderly (o : Options) (i : Nat) (again : Bool) (s : Section) :
    Orderly (p.item "sections" i) (s.siblingViolations o p i again) := by
  refine orderly_node _ "widgets" ?_
  split
  · exact orderly_singleton (List.prefix_refl _)
  · exact orderly_siblings (fun i _ w => w.orderly _ o) _

/-- A page among others is reported on in order, its sections one after the other. -/
theorem Page.orderly (o : Options) (i : Nat) (again : Bool) (page : Page) :
    Orderly (Path.root.item "pages" i) (page.siblingViolations o i again) := by
  refine orderly_node _ "sections" ?_
  split
  · exact orderly_singleton (List.prefix_refl _)
  · exact orderly_siblings (Section.orderly o) _

/-! ### Forms -/

/-- A form is walked in order. -/
theorem Form.orderly_walk (o : Options) (f : Form) : Orderly .root (f.walk o).violations := by
  have texts : Flat .root (identifier "form id" f.id (Path.root.field "id") ++
      notBlank "form title" f.title (Path.root.field "title") ++
      notBlank "form version" f.version (Path.root.field "version")) :=
    ((single_identifier _ _).flat.append (single_notBlank _ _).flat).append (single_notBlank _ _).flat
  have locales : Orderly (Path.root.field "locales") (localeViolations (f.locales.getD [])) := by
    rw [localeViolations_eq_siblings]
    refine orderly_siblings (fun i _ locale => ?_) _
    exact (flat_of_path fun v hv => ((single_reportIf rfl).own v hv).1).orderly
  have none : Flat .root (reportIf f.pages.isEmpty (Path.root.field "pages")
      (.emptyCollection .pages)) := (single_reportIf rfl).flat
  have pages : Orderly (Path.root.field "pages")
      (siblings Page.id (Page.siblingViolations o) f.pages) := orderly_siblings (Page.orderly o) _
  obtain ⟨stored, storage, own⟩ : ∃ stored, Flat .root stored ∧
      f.ownViolations = identifier "form id" f.id (Path.root.field "id") ++
        notBlank "form title" f.title (Path.root.field "title") ++
        notBlank "form version" f.version (Path.root.field "version") ++
        localeViolations (f.locales.getD []) ++ stored ++
        reportIf f.pages.isEmpty (Path.root.field "pages") (.emptyCollection .pages) := by
    refine ⟨_, ?_, rfl⟩
    split
    · exact flat_nil _
    · exact (single_identifier _ _).flat.field
  rw [walk_eq, own]
  refine (((texts.append_below "locales" locales).append_flat storage).append_flat
    none).append_below "pages" pages ?_
  exact List.forall_mem_append.mpr ⟨List.forall_mem_append.mpr ⟨List.forall_mem_append.mpr
    ⟨texts.beside, locales.beside (by decide)⟩, storage.beside⟩, none.beside⟩

/-- The violations of the walk over a form come in the order of the document: of two whose paths go
into different elements of a list, the one with the earlier element comes first, and the violations
below each element of a list follow one another.  A report has these violations, and behind them
only those on identifiers that several widgets of the form share. -/
theorem Form.walk_ordered (o : Options) (f : Form) :
    ((f.walk o).violations.Pairwise fun u v => ∀ list i j rest rest',
      u.path.steps = list ++ .index i :: rest → v.path.steps = list ++ .index j :: rest' →
        i ≠ j → i < j) ∧
    (∀ list i, ∃ before block after, (f.walk o).violations = before ++ block ++ after ∧
      (∀ v ∈ block, list ++ [.index i] <+: v.path.steps) ∧
      ∀ v ∈ before ++ after, ¬ list ++ [.index i] <+: v.path.steps) ∧
    ∃ shared : List Violation,
      (f.report o).findings = ((f.walk o).violations ++ shared).map Violation.finding ∧
      ∀ v ∈ shared, v.kind = .duplicateIdentifier ∧
        ∃ id places, v.cause = .repeatedWidget id places := by
  have walk := f.orderly_walk o
  refine ⟨walk.ordered.imp fun notAfter list i j rest rest' hu hv hne => ?_, walk.block,
    repeatedWidgets (f.walk o).met, rfl, fun v hv => ?_⟩
  · have le := notAfter list i j ⟨rest, by rw [hu]; simp⟩ ⟨rest', by rw [hv]; simp⟩
    exact Nat.lt_of_le_of_ne le hne
  · rw [repeatedWidgets_eq] at hv
    obtain ⟨id, -, hv⟩ := List.mem_filterMap.mp hv
    have cause := (repetition?_eq_some hv).2
    exact ⟨by rw [Violation.kind, cause]; rfl, _, _, cause⟩

end EntryForm
