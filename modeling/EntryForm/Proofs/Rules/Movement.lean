import EntryForm.Proofs.Rules.Places
import EntryForm.Proofs.Text.Paths

/-!
# Proofs — Rules — moving a node

What is reported on a node does not depend on where the node is: at another place the same is
reported, each time behind that place.

* `Path.behind`: the place that a path leads to from another place.  Its text is that of the other
  place with a text behind it that is the path's own (`Path.render_behind`).
* `Moves R`: the reports `R` at a place behind `p` are those at the place itself, put behind `p`.
  Each check moves, since none looks at its place and no cause names one; and so does what is put
  together of checks at fields and elements.
* `Node.walk_moves`: so a page, section, widget or payload has a list of findings of its own, and is
  reported with this list behind whatever place it is at.
-/

namespace EntryForm
open Rules

/-! ### Places behind a place -/

/-- The place that `q` leads to from `p`. -/
def Path.behind (p q : Path) : Path := ⟨p.steps ++ q.steps⟩

/-- The violation at the place that its own leads to from `p`. -/
def Violation.behind (p : Path) (v : Violation) : Violation := ⟨p.behind v.path, v.cause⟩

/-- The occurrence at the place that its own leads to from `p`. -/
def Occurrence.behind (p : Path) (o : Occurrence) : Occurrence := ⟨o.id, p.behind o.path⟩

namespace Path

variable {p q : Path}

/-- The root leads nowhere. -/
theorem behind_root (p : Path) : p.behind .root = p := by
  rw [behind, root, List.append_nil]

/-- A key behind a place is behind it with the rest of the path. -/
theorem field_behind (p q : Path) (name : String) :
    (p.behind q).field name = p.behind (q.field name) := by
  simp [behind, field]

/-- An index behind a place is behind it with the rest of the path. -/
theorem index_behind (p q : Path) (i : Nat) : (p.behind q).index i = p.behind (q.index i) := by
  simp [behind, index]

/-- The text of a path behind the text of the place it starts from. -/
def tail (q : Path) : String := String.ofList (q.steps.flatMap Step.text)

/-- The root apart, where a first field is written without its dot. -/
theorem render_behind (hp : p.render ≠ "") : (p.behind q).render = p.render ++ q.tail := by
  have text : (p.behind q).render = q.steps.foldl extendText p.render := by
    rw [render, behind, List.foldl_append, render]
  refine String.ext ?_
  rw [text, toList_foldl_extendText hp, String.toList_append, tail, String.toList_ofList]

/-- A path that goes on with a key goes on with a dot. -/
theorem tail_eq_of_field {name : String} {rest : List Step} (h : q.steps = .field name :: rest) :
    q.tail = "." ++ (name ++ (⟨rest⟩ : Path).tail) := by
  refine String.ext ?_
  simp [tail, h, Step.text]

end Path

/-! ### Reports that move -/

namespace Rules

/-- At a place behind `p` the reports are those at the place itself, put behind `p`. -/
def Moves (R : Path → List Violation) : Prop :=
  ∀ p q : Path, R (p.behind q) = (R q).map (Violation.behind p)

variable {R S : Path → List Violation}

/-- Reports on the value under a key move with the record. -/
theorem Moves.field (h : Moves R) (name : String) : Moves fun p => R (p.field name) :=
  fun p q => (congrArg R (p.field_behind q name)).trans (h p _)

/-- Reports on an element move with the list. -/
theorem Moves.index (h : Moves R) (i : Nat) : Moves fun p => R (p.index i) :=
  fun p q => (congrArg R (p.index_behind q i)).trans (h p _)

/-- Reports on an element of a list under a key move with the record. -/
theorem Moves.item (h : Moves R) (name : String) (i : Nat) : Moves fun p => R (p.item name i) :=
  (h.index i).field name

theorem moves_nil : Moves fun _ => [] := fun _ _ => rfl

/-- Two lists of reports move together if each does. -/
theorem Moves.append (hR : Moves R) (hS : Moves S) : Moves fun p => R p ++ S p := by
  intro p q
  rw [List.map_append, ← hR, ← hS]

/-- Reports that are made under a condition, which is not on the place. -/
theorem Moves.gated (h : Moves R) (gate : Bool) : Moves fun p => if gate then R p else [] := by
  cases gate with
  | false => exact moves_nil
  | true => exact h

/-- The reports on siblings move if those on each do. -/
theorem moves_siblings {α : Type} {key : α → String}
    {check : Path → Nat → Bool → α → List Violation}
    (h : ∀ i again x, Moves fun p => check p i again x) (xs : List α) :
    Moves fun p => siblings key (check p) xs := by
  intro p q
  simp only [siblings_eq_flatMap, List.map_flatMap]
  exact List.flatMap_congr fun e _ => h _ _ _ p q

/-! ### Single values -/

theorem moves_singleton (c : Cause) : Moves fun p => [⟨p, c⟩] := fun _ _ => rfl

/-- A check moves with its value: its condition does not look at the place. -/
theorem moves_reportIf (b : Bool) (c : Cause) : Moves fun p => reportIf b p c :=
  (moves_singleton c).gated b

theorem moves_notBlank (what value : String) : Moves (notBlank what value) :=
  moves_reportIf _ _

theorem moves_identifier (what value : String) : Moves (identifier what value) := by
  unfold identifier
  cases value.isEmpty with
  | false => exact moves_reportIf _ _
  | true => exact moves_singleton _

theorem moves_oneOf (what : String) (allowed : List String) (value : String) :
    Moves (oneOf what allowed value) :=
  moves_reportIf _ _

theorem moves_between (low high : Int) (value : Count) : Moves (between low high value) :=
  moves_reportIf _ _

theorem moves_notNegative (value : Option Count) : Moves (notNegative value) := by
  cases value with
  | none => exact moves_nil
  | some n => exact moves_reportIf _ _

theorem moves_positive (name : String) (value : Option Count) : Moves (positive name value) := by
  cases value with
  | none => exact moves_nil
  | some n => exact moves_reportIf _ _

theorem moves_ordered (upper lower : String) (high low : Option Count) :
    Moves (ordered upper high lower low) := by
  cases low with
  | none => exact moves_nil
  | some l =>
      cases high with
      | none => exact moves_nil
      | some h => exact moves_reportIf _ _

theorem moves_atMostChars (limit : Nat) (value : Option String) :
    Moves (atMostChars limit value) := by
  cases value with
  | none => exact moves_nil
  | some s => exact moves_reportIf _ _

theorem moves_timeOfDay (wellFormed : String → Bool) (expected : String) (value : Option String) :
    Moves (timeOfDay wellFormed expected value) := by
  cases value with
  | none => exact moves_nil
  | some s => exact moves_reportIf _ _

theorem moves_notRepeated (what value : String) (again : Bool) :
    Moves (notRepeated what value again) :=
  moves_reportIf _ _

theorem moves_localIdentifier (what value : String) (again : Bool) :
    Moves (localIdentifier what value again) :=
  (moves_identifier what value).append (moves_reportIf _ _)

end Rules

/-! ### Payloads without nesting -/

theorem Field.moves_bound (f : Field) : Moves fun p => f.boundViolations p := by
  unfold boundViolations
  split
  · exact (moves_reportIf _ _).field "max"
  · exact moves_nil

theorem Field.moves_length (f : Field) : Moves fun p => f.lengthViolations p :=
  (((moves_notNegative _).field "min_length").append ((moves_notNegative _).field "max_length")).append
    (((moves_ordered _ _ _ _).field "max_length").gated _)

/-- The report on a pattern moves with the field, its wording included. -/
theorem Field.moves_pattern (f : Field) : Moves fun p => f.patternViolations p := by
  unfold patternViolations
  split
  · exact moves_nil
  · split
    · exact moves_nil
    · exact (moves_singleton _).field "pattern"

/-- The reports on a field move with it. -/
theorem Field.moves (f : Field) : Moves fun p => f.violations p :=
  (((((moves_oneOf _ _ _).field "field_type").append f.moves_bound).append f.moves_length).append
    f.moves_pattern).append ((moves_reportIf _ _).field "options")

theorem Group.moves (g : Group) : Moves fun p => g.violations p :=
  ((moves_oneOf _ _ _).field "layout").append <| moves_siblings (fun i again f =>
    (((moves_localIdentifier _ _ again).field "id").item "fields" i).append
      (f.field.moves.item "fields" i)) _

/-- An element that has a name of its own and a label. -/
theorem moves_labelled (key what what' id label : String) (again : Bool) :
    Moves fun p => localIdentifier what id again (p.field key) ++
      notBlank what' label (p.field "label") :=
  ((moves_localIdentifier what id again).field key).append ((moves_notBlank what' label).field "label")

/-- A column of a table or of a grid. -/
theorem moves_column (what what' what'' id label type : String) (again : Bool) :
    Moves fun p => localIdentifier what id again (p.field "id") ++
      notBlank what' label (p.field "label") ++
      oneOf what'' Field.types type (p.field "field_type") :=
  (moves_labelled "id" what what' id label again).append
    ((moves_oneOf what'' _ type).field "field_type")

theorem Table.moves (t : Table) : Moves fun p => t.violations p := by
  unfold violations
  refine ((((((moves_reportIf _ _).field "columns").append
    (moves_siblings (fun i again c => ?_) _)).append
    ((moves_notNegative _).field "min_rows")).append
    ((moves_positive _ _).field "max_rows")).append
    (((moves_ordered _ _ _ _).field "max_rows").gated _))
  exact (moves_column _ _ _ _ _ _ again).item "columns" i

theorem Grid.moves (g : Grid) : Moves fun p => g.violations p := by
  unfold violations
  refine (moves_siblings (fun i again r => ?_) _).append (moves_siblings (fun i again c => ?_) _)
  · exact (moves_labelled "id" _ _ _ _ again).item "rows" i
  · exact (moves_column _ _ _ _ _ _ again).item "columns" i

theorem Checklist.moves (c : Checklist) : Moves fun p => c.violations p := by
  unfold violations
  refine ((moves_reportIf _ _).field "items").append (moves_siblings (fun i again item => ?_) _)
  exact (moves_labelled "key" _ _ _ _ again).item "items" i

theorem Header.moves (h : Header) : Moves fun p => h.violations p :=
  ((((((moves_atMostChars _ _).field "title").append
    ((moves_atMostChars _ _).field "subtitle")).append
    ((moves_atMostChars _ _).field "document_number")).append
    ((moves_atMostChars _ _).field "revision")).append
    ((moves_atMostChars _ _).field "effective_date")).append
    ((moves_atMostChars _ _).field "logo_url")

theorem Signature.moves (s : Signature) : Moves fun p => s.violations p :=
  (((moves_between _ _ _).field "signature_width").append
    ((moves_between _ _ _).field "signature_height")).append
    ((moves_oneOf _ _ _).field "signature_type")

theorem Notes.moves (n : Notes) : Moves fun p => n.violations p :=
  ((moves_notBlank _ _).field "content").append ((moves_oneOf _ _ _).field "style")

theorem Choice.moves_value (c : Choice) (again : Bool) : Moves fun p =>
    if Text.isBlank c.value then [⟨p.field "value", .empty "option value"⟩]
    else reportIf again (p.field "value") (.repeated "option value" c.value) := by
  cases Text.isBlank c.value with
  | false => exact (moves_reportIf _ _).field "value"
  | true => exact (moves_singleton _).field "value"

/-- The reports on choices move with the list of them. -/
theorem Choice.moves_list (options : List Choice) : Moves fun p => listViolations p options :=
  (moves_reportIf _ _).append <| moves_siblings (fun i again c =>
    ((c.moves_value again).index i).append (((moves_notBlank _ _).field "label").index i)) _

theorem RadioGroup.moves (r : RadioGroup) : Moves fun p => r.violations p := by
  refine (((Choice.moves_list _).field "options").append
    ((moves_oneOf _ _ _).field "orientation")).append ?_
  cases r.defaultValue with
  | none => exact moves_nil
  | some value => exact (moves_reportIf _ _).field "default_value"

theorem CheckboxGroup.moves (c : CheckboxGroup) : Moves fun p => c.violations p :=
  ((((((Choice.moves_list _).field "options").append
    ((moves_oneOf _ _ _).field "orientation")).append
    ((moves_notNegative _).field "min_selections")).append
    ((moves_positive _ _).field "max_selections")).append
    (((moves_ordered _ _ _ _).field "max_selections").gated _)).append
    ((moves_between _ _ _).field "grid_columns")

theorem TimePicker.moves_order (t : TimePicker) : Moves fun p => t.orderViolations p := by
  unfold orderViolations
  split
  · exact (moves_reportIf _ _).field "max_time"
  · exact moves_nil

theorem TimePicker.moves (t : TimePicker) : Moves fun p => t.violations p :=
  ((((((moves_oneOf _ _ _).field "format").append
    ((moves_between _ _ _).field "step_minutes")).append
    ((moves_timeOfDay _ _ _).field "min_time")).append
    ((moves_timeOfDay _ _ _).field "max_time")).append
    ((moves_timeOfDay _ _ _).field "default_time")).append (t.moves_order.gated _)

/-! ### Nested checklists -/

/-- The reports on an item by itself move with it. -/
theorem NestedItem.moves_own (item : NestedItem) (again : Bool) :
    Moves fun p => item.ownViolations p again :=
  (moves_labelled "key" _ _ _ _ again).append ((moves_oneOf _ _ _).field "type")

/-- The walk over items at a place behind `p`, which meets the same keys. -/
def KeyWalk.behind (p : Path) (w : KeyWalk) : KeyWalk := ⟨w.violations.map (Violation.behind p), w.keys⟩

mutual

/-- An item behind a place is walked alike, its reports put behind the place. -/
theorem NestedItem.walk_behind (ceiling depth : Nat) (p q : Path) (keys : List String) :
    ∀ item : NestedItem,
      item.walk ceiling depth (p.behind q) keys = (item.walk ceiling depth q keys).behind p
  | .mk key label itemType required children => by
    have own := (NestedItem.mk key label itemType required children).moves_own (keys.contains key) p q
    rw [walk, walk]
    simp only [own, p.field_behind, walkList_behind ceiling (depth + 1) p _ 0 _ children]
    split
    · rfl
    · split
      · simp only [KeyWalk.behind, List.map_append, List.map_singleton]
        rfl
      · simp only [KeyWalk.behind, List.map_append]

/-- So are the items of a list. -/
theorem NestedItem.walkList_behind (ceiling depth : Nat) (p q : Path) (i : Nat)
    (keys : List String) : ∀ items : List NestedItem,
      walkList ceiling depth (p.behind q) i keys items =
        (walkList ceiling depth q i keys items).behind p
  | [] => by
    rw [walkList, walkList]
    rfl
  | item :: rest => by
    rw [walkList, walkList]
    simp only [p.index_behind, walk_behind ceiling depth p _ keys item,
      walkList_behind ceiling depth p q (i + 1) _ rest, KeyWalk.behind, List.map_append]

end

/-- The reports on items move with the checklist, that of too deep a nesting included. -/
theorem NestedChecklist.moves_items (ceiling : Nat) (items : List NestedItem) :
    Moves fun p => NestedChecklist.itemViolations ceiling p items := by
  unfold itemViolations
  split
  · exact moves_nil
  · split
    · exact moves_singleton _
    · exact fun p q => congrArg KeyWalk.violations (NestedItem.walkList_behind ceiling 1 p q 0 [] items)

theorem NestedChecklist.moves (ceiling : Nat) (c : NestedChecklist) :
    Moves fun p => c.violations ceiling p :=
  ((((moves_reportIf _ _).field "items").append
    ((moves_oneOf _ _ _).field "numbering_style")).append
    ((moves_between _ _ _).field "indent_size")).append ((moves_items ceiling c.items).field "items")

/-! ### Widgets, sections and pages -/

/-- The reports on a payload move with it, whatever its kind. -/
theorem Payload.moves (o : Options) (data : Payload) : Moves fun p => data.violations o p := by
  cases data with
  | field data => exact data.moves
  | group data => exact data.moves
  | table data => exact data.moves
  | grid data => exact data.moves
  | checklist data => exact data.moves
  | formHeader data => exact data.moves
  | signature data => exact data.moves
  | notes data => exact data.moves
  | nestedChecklist data => exact data.moves o.ceiling
  | radioGroup data => exact data.moves
  | checkboxGroup data => exact data.moves
  | timePicker data => exact data.moves

theorem Body.moves (o : Options) (b : Body) : Moves fun p => b.violations o p := by
  cases b with
  | payload data => exact (data.moves o).field data.kind.name
  | missing kind => exact (moves_singleton _).field kind.name
  | unknown raw =>
      simp only [violations]
      cases raw.isEmpty with
      | false => exact (moves_singleton _).field "type"
      | true => exact (moves_singleton _).field "type"

/-- The reports on foreign payloads move with the widget. -/
theorem Widget.moves_foreign (w : Widget) : Moves fun p => w.foreignViolations p := by
  intro p q
  simp only [foreignViolations, List.map_map, p.field_behind]
  rfl

/-- The reports on a widget move with it. -/
theorem Widget.moves (o : Options) (w : Widget) : Moves fun p => w.violations o p := by
  refine (((moves_identifier _ _).field "id").append (w.body.moves o)).append ?_
  cases o.exclusivity with
  | strict => exact w.moves_foreign
  | lenient => exact moves_nil

/-- The reports on a section move with it. -/
theorem Section.moves (o : Options) (s : Section) : Moves fun p => s.violations o p := by
  refine (((moves_identifier _ _).field "id").append ((moves_notBlank _ _).field "title")).append ?_
  cases s.widgets with
  | none => exact (moves_singleton _).field "widgets"
  | some widgets => exact moves_siblings (fun i _ w => (w.moves o).item "widgets" i) widgets

/-- The reports on a page move with it. -/
theorem Page.moves (o : Options) (page : Page) : Moves fun p => page.violations o p := by
  refine (((moves_identifier _ _).field "id").append ((moves_notBlank _ _).field "title")).append ?_
  cases page.sections with
  | none => exact (moves_singleton _).field "sections"
  | some sections =>
      exact moves_siblings (fun i again s =>
        (((moves_notRepeated _ _ again).field "id").item "sections" i).append
          ((s.moves o).item "sections" i)) sections

/-! ### Identifiers of widgets -/

/-- The identifiers of a section are met behind the place it is moved to. -/
theorem Section.occurrences_behind (p q : Path) (s : Section) :
    s.occurrences (p.behind q) = (s.occurrences q).map (Occurrence.behind p) := by
  rw [occurrences, occurrences, List.map_map]
  refine List.map_congr_left fun e _ => ?_
  simp only [Path.item, Path.field_behind, Path.index_behind]
  rfl

/-- The identifiers of a page are met behind the place it is moved to. -/
theorem Page.occurrences_behind (p q : Path) (page : Page) :
    page.occurrences (p.behind q) = (page.occurrences q).map (Occurrence.behind p) := by
  rw [occurrences, occurrences, List.map_flatMap]
  refine List.flatMap_congr fun e _ => ?_
  simp only [Path.item, Path.field_behind, Path.index_behind]
  exact e.1.occurrences_behind p _

/-! ### Nodes -/

/-- A part of a form that can be validated by itself, at the place it is given. -/
inductive Node where
  | ofPage (page : Page)
  | ofSection (s : Section)
  | ofWidget (w : Widget)
  | ofPayload (data : Payload)

namespace Node

/-- Walks the node at `p`.  Widgets and payloads add nothing to the identifiers met. -/
def walk (o : Options) (p : Path) : Node → List Occurrence → Walk
  | ofPage page, met => page.walk o p met
  | ofSection s, met => s.walk o p met
  | ofWidget w, met => ⟨w.violations o p, met⟩
  | ofPayload data, met => ⟨data.violations o p, met⟩

/-- What is reported on the node at `p`. -/
def violations (o : Options) (p : Path) : Node → List Violation
  | ofPage page => page.violations o p
  | ofSection s => s.violations o p
  | ofWidget w => w.violations o p
  | ofPayload data => data.violations o p

/-- The identifiers that a walk over the node at `p` meets. -/
def occurrences (p : Path) : Node → List Occurrence
  | ofPage page => page.occurrences p
  | ofSection s => s.occurrences p
  | ofWidget _ | ofPayload _ => []

/-- A walk reports what is on the node, and puts the identifiers in it behind those met. -/
theorem walk_eq (o : Options) (p : Path) (n : Node) (met : List Occurrence) :
    n.walk o p met = ⟨n.violations o p, met ++ n.occurrences p⟩ := by
  cases n with
  | ofPage page => exact page.walk_eq o p met
  | ofSection s => exact s.walk_eq o p met
  | ofWidget w => exact congrArg (Walk.mk _) (List.append_nil met).symm
  | ofPayload data => exact congrArg (Walk.mk _) (List.append_nil met).symm

/-- The reports on a node move with it. -/
theorem moves (o : Options) (n : Node) : Moves fun p => n.violations o p := by
  cases n with
  | ofPage page => exact page.moves o
  | ofSection s => exact s.moves o
  | ofWidget w => exact w.moves o
  | ofPayload data => exact data.moves o

/-- The identifiers in a node move with it. -/
theorem occurrences_behind (p q : Path) (n : Node) :
    n.occurrences (p.behind q) = (n.occurrences q).map (Occurrence.behind p) := by
  cases n with
  | ofPage page => exact page.occurrences_behind p q
  | ofSection s => exact s.occurrences_behind p q
  | ofWidget w => rfl
  | ofPayload data => rfl

end Node

/-! ### Texts behind a place -/

/-- Steps from a record begin with a key of it, so their text begins with a dot. -/
theorem Wire.Leads.tail_eq {kind : Violation.Kind} {r : Wire.Record} {j : Json} {q : Path}
    (h : Wire.Leads kind (.record r) j .root q) : ∃ rest, q.tail = "." ++ rest := by
  obtain ⟨steps, hne, hq, hpoints⟩ := h
  rw [Path.root, List.nil_append] at hq
  cases hpoints with
  | here => exact absurd rfl hne
  | value => exact ⟨_, Path.tail_eq_of_field hq⟩
  | absent => exact ⟨_, Path.tail_eq_of_field hq⟩

namespace Node

/-- A report on a node by itself stands behind a dot: the node is a record. -/
theorem tail_of_violation {o : Options} {n : Node} {v : Violation}
    (hv : v ∈ n.violations o .root) : ∃ rest, v.path.tail = "." ++ rest := by
  cases n with
  | ofPage page => exact (Page.leads_of_mem hv).tail_eq
  | ofSection s => exact (Section.leads_of_mem hv).tail_eq
  | ofWidget w => exact (Widget.leads_of_mem hv).tail_eq
  | ofPayload data => exact (Payload.inside hv).leads.tail_eq

/-- An identifier in a node by itself stands behind a dot. -/
theorem tail_of_occurrence {n : Node} {a : Occurrence} (ha : a ∈ n.occurrences .root) :
    ∃ rest, a.path.tail = "." ++ rest := by
  cases n with
  | ofPage page =>
      have leads : Wire.Leads .missingField (.record .page) page.toJson .root a.path :=
        Page.leads_of_occurrence ha
      exact leads.tail_eq
  | ofSection s =>
      have leads : Wire.Leads .missingField (.record .section) s.toJson .root a.path :=
        Section.leads_of_occurrence ha
      exact leads.tail_eq
  | ofWidget w => cases ha
  | ofPayload data => cases ha

end Node

/-- The finding with its path behind that of another place. -/
def Finding.behind (place : String) (g : Finding) : Finding := { g with path := place ++ g.path }

/-- A node has a list of findings and a list of identifiers of its own, which do not depend on where
it is.  At any place but the root these are the findings and the identifiers that a walk over the
node yields, each with the place in front of its path. -/
theorem Node.walk_moves (o : Options) (n : Node) :
    ∃ (own : List Finding) (ids : List (String × String)),
      (∀ g ∈ own, ∃ rest, g.path = "." ++ rest) ∧
      (∀ e ∈ ids, ∃ rest, e.2 = "." ++ rest) ∧
      ∀ p : Path, p.render ≠ "" → ∀ met : List Occurrence,
        (n.walk o p met).violations.map Violation.finding = own.map (Finding.behind p.render) ∧
        ∃ added, (n.walk o p met).met = met ++ added ∧
          added.map (fun a => (a.id, a.path.render)) = ids.map fun e => (e.1, p.render ++ e.2) := by
  refine ⟨(n.violations o .root).map fun v => ⟨v.path.tail, v.kind, v.cause.message⟩,
    (n.occurrences .root).map fun a => (a.id, a.path.tail), ?_, ?_, fun p hp met => ?_⟩
  · exact List.forall_mem_map.mpr fun v hv => tail_of_violation hv
  · exact List.forall_mem_map.mpr fun a ha => tail_of_occurrence ha
  · have reports : n.violations o p = (n.violations o .root).map (Violation.behind p) := by
      rw [← n.moves o p .root, p.behind_root]
    have identifiers : n.occurrences p = (n.occurrences .root).map (Occurrence.behind p) := by
      rw [← n.occurrences_behind p .root, p.behind_root]
    rw [walk_eq]
    refine ⟨?_, n.occurrences p, rfl, ?_⟩
    · rw [reports, List.map_map, List.map_map]
      refine List.map_congr_left fun v _ => ?_
      exact congrArg (fun path => Finding.mk path v.kind v.cause.message) (Path.render_behind hp)
    · rw [identifiers, List.map_map, List.map_map]
      exact List.map_congr_left fun a _ => congrArg (Prod.mk a.id) (Path.render_behind hp)

/-- A section with a blank title and a widget without an identifier or a payload. -/
theorem Node.walk_moves_section :
    let n : Node := .ofSection
      { id := "s", title := " ", widgets := some [{ id := "", body := .missing .notes }] }
    let p := (Path.root.item "pages" 0).item "sections" 1
    p.render ≠ "" ∧ (n.walk {} p []).violations.length = 3 ∧
      ∃ (own : List Finding) (ids : List (String × String)),
        (∀ g ∈ own, ∃ rest, g.path = "." ++ rest) ∧
        (n.walk {} p []).violations.map Violation.finding = own.map (Finding.behind p.render) ∧
        (n.walk {} p []).met.map (fun a => (a.id, a.path.render)) =
          ids.map fun e => (e.1, p.render ++ e.2) := by
  intro n p
  have there : p.render ≠ "" := by decide
  obtain ⟨own, ids, dots, -, moved⟩ := walk_moves {} n
  obtain ⟨reports, added, met, identifiers⟩ := moved p there []
  exact ⟨there, by decide, own, ids, dots, reports, by rw [met]; exact identifiers⟩

end EntryForm
