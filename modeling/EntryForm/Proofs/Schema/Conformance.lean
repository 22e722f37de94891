import EntryForm.Document
import EntryForm.Proofs.Json.Written
import EntryForm.Proofs.Schema.Meaning
import EntryForm.Proofs.Wire.Exact

/-!
# Proofs — Schema — what is written conforms

* `Conforms P n s v`: what is written of the value is exactly of the shape, or is null if `n`; `P`
  holds of what is written of labels and of free data.
* `Holds P r es`: each of the entries is at a key of the record and conforms to what is expected
  there.
* `conforms_of_holds`: an object of such entries conforms to the record.
* `conforms`, for each record: what is written of it does.
* `Form.valid_toJson`: what is written of a form is valid against the schema of documents.
-/

namespace EntryForm.Schema
open Wire

/-! ### Values -/

/-- A value that is exactly of a shape has the shape. -/
theorem fits_of_exact {P : Json → Prop} {n : Bool} {s : Shape} {v : Json} (h : Exact P n s v) :
    Fits n s v := by
  induction h with
  | null s => exact .null s
  | text t => exact .text t
  | flag b => exact .flag b
  | count c => exact .count List.mem_cons_self
  | number finite => exact .number (Json.number_mem_types finite)
  | labels texts held => exact .labels texts
  | free held => exact .free _
  | list each ih => exact .list ih
  | record known each ih => exact .record ih

/-- What is written of the value is exactly of the shape, or is null where it may be. -/
def Conforms (P : Json → Prop) (nullable : Bool) (s : Shape) (v : Json) : Prop :=
  Exact P nullable s v.written

section Values

variable {P : Json → Prop} {n : Bool} {s : Shape}

theorem conforms_text (t : String) : Conforms P n .text (.str t) := .text t

theorem conforms_flag (b : Bool) : Conforms P n .flag (.bool b) := .flag b

theorem conforms_count (c : Count) : Conforms P n .count (ofCount c) := .count c

/-- A number is nullable wherever it stands, and null is written for it unless it is finite. -/
theorem conforms_number (x : Float) : Conforms P true .number (.float x) := by
  rw [Conforms, Json.written]
  split
  · next h => exact .number h
  · exact .null _

/-- A list conforms if its items do. -/
theorem conforms_list {α : Type} {write : α → Json} {xs : List α}
    (h : ∀ x ∈ xs, Conforms P false s (write x)) :
    Conforms P n (.list s) (.arr (xs.map write)) := by
  rw [Conforms, Json.written, Json.writtenItems_eq_map]
  exact .list (List.forall_mem_map.mpr (List.forall_mem_map.mpr h))

theorem conforms_texts (texts : List String) : Conforms P n (.list .text) (ofTexts texts) :=
  conforms_list fun t _ => conforms_text t

/-- Labels conform: each is a text under a key. -/
theorem conforms_labels {labels : List (String × String)}
    (held : P (.obj (labels.map fun l => (l.1, .str l.2)))) :
    Conforms P n .labels (.obj (labels.map fun l => (l.1, .str l.2))) := by
  have same : (Json.obj (labels.map fun l => (l.1, .str l.2))).written =
      .obj (labels.map fun l => (l.1, .str l.2)) :=
    Json.finite_obj.mpr (List.forall_mem_map.mpr fun l _ => Json.finite_str l.2)
  rw [Conforms, same]
  exact .labels (List.forall_mem_map.mpr fun l _ => ⟨l.2, rfl⟩) held

/-- An object conforms where any is expected. -/
theorem conforms_free {entries : List (String × Json)} (held : P (Json.obj entries).written) :
    Conforms P n .free (.obj entries) :=
  .free held

end Values

/-! ### Records -/

/-- The entry is at a key of the record and conforms to what is expected there. -/
def Suits (P : Json → Prop) (r : Record) (e : String × Json) : Prop :=
  ∃ s n, r.keys.lookup e.1 = some (s, n) ∧ Conforms P n s e.2

/-- Each of the entries is at a key of the record and conforms to what is expected there. -/
def Holds (P : Json → Prop) (r : Record) (es : List (String × Json)) : Prop :=
  ∀ e ∈ es, Suits P r e

section Records

variable {P : Json → Prop} {r : Record} {es : List (String × Json)} {n : Bool} {s : Shape}
  {key : String}

theorem Holds.nil : Holds P r [] := nofun

/-- One more entry that conforms at its key. -/
theorem Holds.entry {v : Json} (known : r.keys.lookup key = some (s, n)) (h : Conforms P n s v)
    (rest : Holds P r es) : Holds P r ((key, v) :: es) :=
  List.forall_mem_cons.mpr ⟨⟨s, n, known, h⟩, rest⟩

/-- An entry that may be absent holds if it conforms when it is there. -/
theorem Holds.presentAs {α : Type} {write : α → Json} {o : Option α}
    (known : r.keys.lookup key = some (s, n)) (h : ∀ x ∈ o, Conforms P n s (write x))
    (rest : Holds P r es) : Holds P r (Wire.present key write o ++ es) := by
  cases o with
  | none => exact rest
  | some x => exact .entry known (h x rfl) rest

theorem Holds.present {α : Type} {write : α → Json} {o : Option α}
    (known : r.keys.lookup key = some (s, n)) (h : ∀ x, Conforms P n s (write x))
    (rest : Holds P r es) : Holds P r (Wire.present key write o ++ es) :=
  .presentAs known (fun x _ => h x) rest

/-- A list that may be left out holds if its items conform. -/
theorem Holds.nonempty {α : Type} {write : α → Json} {xs : List α}
    (known : r.keys.lookup key = some (.list s, n)) (h : ∀ x ∈ xs, Conforms P false s (write x))
    (rest : Holds P r es) : Holds P r (Wire.nonempty key write xs ++ es) := by
  cases xs with
  | nil => exact rest
  | cons x xs => exact .entry known (conforms_list h) rest

/-- An object of entries that a record holds conforms to the record. -/
theorem conforms_of_holds (h : Holds P r (es ++ [])) : Conforms P n (.record r) (.obj es) := by
  rw [List.append_nil] at h
  rw [Conforms, Json.written, Json.writtenEntries_eq_map]
  refine .record (List.forall_mem_map.mpr fun e he => ?_)
    (List.forall_mem_map.mpr fun e he s m known => ?_)
  · obtain ⟨s, m, found, -⟩ := h e he
    exact Option.isSome_of_eq_some found
  · obtain ⟨other, k, found, conforms⟩ := h e he
    obtain ⟨rfl, rfl⟩ := Prod.mk.inj (Option.some.inj (found.symm.trans known))
    exact conforms

end Records

end EntryForm.Schema

namespace EntryForm
open Wire Schema

variable {P : Json → Prop} {n : Bool}

/-! ### Payloads -/

/-- The entries of a field hold, without the braces around them. -/
theorem Field.holds (f : Field) : Holds P .field (f.entries ++ []) := by
  simp only [entries, List.append_assoc, List.cons_append, List.nil_append]
  refine .entry rfl (conforms_text f.fieldType) ?_
  refine .present rfl conforms_text ?_
  refine .entry rfl (conforms_flag f.required) ?_
  refine .present rfl conforms_text ?_
  refine .present rfl conforms_text ?_
  refine .present rfl conforms_text ?_
  refine .present rfl conforms_number ?_
  refine .present rfl conforms_number ?_
  refine .present rfl conforms_count ?_
  refine .present rfl conforms_count ?_
  refine .present rfl conforms_text ?_
  exact .nonempty rfl (fun t _ => conforms_text t) .nil

/-- A field is written as the schema says. -/
theorem Field.conforms (f : Field) : Conforms P n (.record .field) f.toJson :=
  conforms_of_holds f.holds

/-- The keys of a field are keys of a field of a group. -/
theorem GroupField.suits_of_field {e : String × Json} (h : Suits P .field e) :
    Suits P .groupField e := by
  obtain ⟨s, n, known, conforms⟩ := h
  refine ⟨s, n, ?_, conforms⟩
  have other : e.1 ≠ "id" := fun same => by
    have unknown : Record.field.keys.lookup "id" = none := by decide
    rw [same, unknown] at known
    cases known
  exact (lookup_cons_of_ne other _ _).trans known

/-- A field of a group is written as the schema says, flattened. -/
theorem GroupField.conforms (f : GroupField) : Conforms P n (.record .groupField) f.toJson := by
  refine conforms_of_holds (.entry rfl (conforms_text f.id) fun e he => ?_)
  exact suits_of_field (f.field.holds e he)

theorem Group.conforms (g : Group) : Conforms P n (.record .group) g.toJson := by
  refine conforms_of_holds (.entry rfl (conforms_text g.layout) ?_)
  exact .entry rfl (conforms_list fun f _ => f.conforms) .nil

theorem TableColumn.conforms (c : TableColumn) : Conforms P n (.record .tableColumn) c.toJson := by
  refine conforms_of_holds ?_
  refine .entry rfl (conforms_text c.id) (.entry rfl (conforms_text c.label) ?_)
  exact .entry rfl (conforms_text c.fieldType) (.entry rfl (conforms_flag c.required) .nil)

theorem Table.conforms (t : Table) : Conforms P n (.record .table) t.toJson := by
  refine conforms_of_holds ?_
  simp only [List.append_assoc, List.cons_append, List.nil_append]
  refine .entry rfl (conforms_list fun c _ => c.conforms) ?_
  refine .present rfl conforms_count ?_
  refine .present rfl conforms_count ?_
  exact .entry rfl (conforms_flag t.allowAddRows) .nil

theorem GridRow.conforms (r : GridRow) : Conforms P n (.record .gridRow) r.toJson := by
  refine conforms_of_holds ?_
  exact .entry rfl (conforms_text r.id) (.entry rfl (conforms_text r.label) .nil)

theorem GridColumn.conforms (c : GridColumn) : Conforms P n (.record .gridColumn) c.toJson := by
  refine conforms_of_holds ?_
  refine .entry rfl (conforms_text c.id) (.entry rfl (conforms_text c.label) ?_)
  exact .entry rfl (conforms_text c.fieldType) .nil

theorem Grid.conforms (g : Grid) : Conforms P n (.record .grid) g.toJson := by
  refine conforms_of_holds (.entry rfl (conforms_list fun r _ => r.conforms) ?_)
  exact .entry rfl (conforms_list fun c _ => c.conforms) .nil

theorem ChecklistItem.conforms (i : ChecklistItem) :
    Conforms P n (.record .checklistItem) i.toJson := by
  refine conforms_of_holds ?_
  exact .entry rfl (conforms_text i.key) (.entry rfl (conforms_text i.label) .nil)

theorem Checklist.conforms (c : Checklist) : Conforms P n (.record .checklist) c.toJson :=
  conforms_of_holds (.entry rfl (conforms_list fun i _ => i.conforms) .nil)

theorem Header.conforms (h : Header) : Conforms P n (.record .header) h.toJson := by
  refine conforms_of_holds ?_
  simp only [List.append_assoc]
  refine .present rfl conforms_text ?_
  refine .present rfl conforms_text ?_
  refine .present rfl conforms_text ?_
  refine .present rfl conforms_text ?_
  refine .present rfl conforms_text ?_
  exact .present rfl conforms_text .nil

theorem Signature.conforms (s : Signature) : Conforms P n (.record .signature) s.toJson := by
  refine conforms_of_holds ?_
  simp only [List.append_assoc, List.cons_append, List.nil_append]
  refine .present rfl conforms_text ?_
  refine .entry rfl (conforms_count s.width) (.entry rfl (conforms_count s.height) ?_)
  exact .entry rfl (conforms_text s.signatureType) (.entry rfl (conforms_flag s.requireDate) .nil)

theorem Notes.conforms (m : Notes) : Conforms P n (.record .notes) m.toJson := by
  refine conforms_of_holds ?_
  exact .entry rfl (conforms_text m.content) (.entry rfl (conforms_text m.style) .nil)

mutual

/-- An item is written as the schema says, its children included. -/
theorem NestedItem.conforms :
    ∀ item : NestedItem, Conforms P false (.record .nestedItem) item.toJson
  | .mk key label itemType required children => by
    rw [toJson_eq]
    refine conforms_of_holds ?_
    simp only [entries, List.cons_append, List.nil_append]
    refine .entry rfl (conforms_text key) (.entry rfl (conforms_text label) ?_)
    refine .entry rfl (conforms_text itemType) (.entry rfl (conforms_flag required) ?_)
    exact .nonempty rfl (conforms_each children) .nil

/-- So is each item of a list. -/
theorem NestedItem.conforms_each : ∀ items : List NestedItem, ∀ item ∈ items,
    Conforms P false (.record .nestedItem) item.toJson
  | [] => nofun
  | first :: rest => fun item hitem => by
    obtain same | hitem := List.mem_cons.mp hitem
    · rw [same]
      exact conforms first
    · exact conforms_each rest item hitem

end

theorem NestedChecklist.conforms (c : NestedChecklist) :
    Conforms P n (.record .nestedChecklist) c.toJson := by
  rw [toJson, NestedItem.listToJson_eq_map]
  refine conforms_of_holds (.entry rfl (conforms_list fun item _ => item.conforms) ?_)
  refine .entry rfl (conforms_text c.numberingStyle) ?_
  exact .entry rfl (conforms_count c.indentSize) (.entry rfl (conforms_flag c.showNumbers) .nil)

theorem Choice.conforms (c : Choice) : Conforms P n (.record .choice) c.toJson := by
  refine conforms_of_holds ?_
  exact .entry rfl (conforms_text c.value) (.entry rfl (conforms_text c.label) .nil)

theorem RadioGroup.conforms (r : RadioGroup) : Conforms P n (.record .radioGroup) r.toJson := by
  refine conforms_of_holds ?_
  simp only [List.cons_append, List.nil_append]
  refine .entry rfl (conforms_list fun c _ => c.conforms) ?_
  exact .entry rfl (conforms_text r.orientation) (.present rfl conforms_text .nil)

theorem CheckboxGroup.conforms (c : CheckboxGroup) :
    Conforms P n (.record .checkboxGroup) c.toJson := by
  refine conforms_of_holds ?_
  simp only [List.append_assoc, List.cons_append, List.nil_append]
  refine .entry rfl (conforms_list fun o _ => o.conforms) ?_
  refine .entry rfl (conforms_text c.orientation) ?_
  refine .present rfl conforms_count ?_
  refine .present rfl conforms_count ?_
  exact .entry rfl (conforms_count c.gridColumns) .nil

theorem TimePicker.conforms (t : TimePicker) : Conforms P n (.record .timePicker) t.toJson := by
  refine conforms_of_holds ?_
  simp only [List.append_assoc, List.cons_append, List.nil_append]
  refine .entry rfl (conforms_text t.format) (.entry rfl (conforms_count t.stepMinutes) ?_)
  refine .present rfl conforms_text ?_
  refine .present rfl conforms_text ?_
  exact .present rfl conforms_text .nil

/-- A payload is written as the schema of its kind says. -/
theorem Payload.conforms (data : Payload) :
    Conforms P n (.record data.kind.record) data.toJson := by
  cases data with
  | field data => exact data.conforms
  | group data => exact data.conforms
  | table data => exact data.conforms
  | grid data => exact data.conforms
  | checklist data => exact data.conforms
  | formHeader data => exact data.conforms
  | signature data => exact data.conforms
  | notes data => exact data.conforms
  | nestedChecklist data => exact data.conforms
  | radioGroup data => exact data.conforms
  | checkboxGroup data => exact data.conforms
  | timePicker data => exact data.conforms

/-! ### Forms -/

/-- The payload of a body stands under the key of its kind. -/
theorem Body.holds (b : Body) : Holds P .widget (b.entries ++ []) := by
  cases b with
  | payload data => exact .entry (Kind.lookup_name data.kind) data.conforms .nil
  | missing kind => exact .nil
  | unknown raw => exact .nil

/-- A widget is written as the schema says, foreign payloads left out. -/
theorem Widget.conforms (w : Widget) : Conforms P n (.record .widget) w.toJson := by
  refine conforms_of_holds ?_
  simp only [List.append_assoc, List.cons_append, List.nil_append]
  refine .entry rfl (conforms_text w.id) (.entry rfl (conforms_text w.body.discriminator) ?_)
  refine .present rfl conforms_text ?_
  refine .present rfl conforms_text ?_
  exact .present rfl conforms_text w.body.holds

/-- A section is written as the schema says. -/
theorem Section.conforms (s : Section) : Conforms P n (.record .section) s.toJson := by
  refine conforms_of_holds ?_
  simp only [List.cons_append, List.nil_append]
  refine .entry rfl (conforms_text s.id) (.entry rfl (conforms_text s.title) ?_)
  exact .present rfl (fun ws => conforms_list fun w _ => w.conforms) .nil

/-- A page is written as the schema says. -/
theorem Page.conforms (p : Page) : Conforms P n (.record .page) p.toJson := by
  refine conforms_of_holds ?_
  simp only [List.cons_append, List.nil_append]
  refine .entry rfl (conforms_text p.id) (.entry rfl (conforms_text p.title) ?_)
  exact .present rfl (fun ss => conforms_list fun s _ => s.conforms) .nil

theorem Submission.conforms (s : Submission) : Conforms P n (.record .submission) s.toJson := by
  refine conforms_of_holds ?_
  refine .entry rfl (conforms_flag s.allowDrafts) ?_
  refine .entry rfl (conforms_flag s.allowMultipleSubmissions) ?_
  exact .entry rfl (conforms_flag s.requireSignature) .nil

theorem Storage.conforms (s : Storage) : Conforms P n (.record .storage) s.toJson := by
  refine conforms_of_holds ?_
  simp only [List.append_assoc]
  exact .present rfl conforms_text (.present rfl conforms_text .nil)

/-- A form is written as the schema says, not yet as the root of it. -/
theorem Form.conforms (f : Form)
    (labels : ∀ ls ∈ f.labels, P (.obj (ls.map fun l => (l.1, .str l.2))))
    (metadata : ∀ es ∈ f.metadata, P (Json.obj es).written) :
    Conforms P n (.record .form) f.toJson := by
  refine conforms_of_holds ?_
  simp only [List.append_assoc, List.cons_append, List.nil_append]
  refine .entry rfl (conforms_text f.id) (.entry rfl (conforms_text f.title) ?_)
  refine .entry rfl (conforms_text f.version) ?_
  refine .present rfl conforms_text ?_
  refine .present rfl conforms_texts ?_
  refine .presentAs rfl (fun ls hls => conforms_labels (labels ls hls)) ?_
  refine .presentAs rfl (fun es hes => conforms_free (metadata es hes)) ?_
  refine .present rfl Submission.conforms ?_
  refine .present rfl Storage.conforms ?_
  exact .entry rfl (conforms_list fun p _ => p.conforms) .nil

/-- What is written of a form has the shape of one. -/
theorem Form.fits (f : Form) : Fits n (.record .form) f.toJson.written :=
  fits_of_exact (f.conforms (P := fun _ => True) (fun _ _ => trivial) fun _ _ => trivial)

/-- What is written of a form is valid against the schema of documents.  `written` is the value
that the JSON text of the form stands for. -/
theorem Form.valid_toJson (f : Form) :
    Valid document document f.toJson.written ∧ f.write .json = f.toJson.written.pretty :=
  ⟨valid_document_iff.mpr f.fits, (Json.pretty_written f.toJson).symm⟩

end EntryForm
