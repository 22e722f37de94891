import EntryForm.Proofs.Json.Written
import EntryForm.Proofs.Wire.Places

/-!
# Proofs — Wire — finite bounds

The bounds of a field are the only floating point numbers of a form, besides those in its
metadata.  Where they are finite, the form is written as it is (`Form.finite_toJson`).
-/

namespace EntryForm
open Wire

/-! ### Conditions -/

/-- The bounds of the field are finite or absent. -/
structure Field.Finite (f : Field) : Prop where
  min : ∀ x ∈ f.min, x.isFinite = true
  max : ∀ x ∈ f.max, x.isFinite = true

/-- The bounds in the payload are finite or absent. -/
def Payload.Finite : Payload → Prop
  | .field data => data.Finite
  | .group data => ∀ f ∈ data.fields, f.field.Finite
  | _ => True

/-- Every bound in the form is finite, and so are the numbers in its metadata. -/
structure Form.Finite (f : Form) : Prop where
  bounds : ∀ w ∈ f.widgets, ∀ data, w.body = .payload data → data.Finite
  metadata : ∀ entries ∈ f.metadata, (Json.obj entries).Finite

namespace Wire

@[simp] theorem finite_ofCount (n : Count) : (ofCount n).Finite := Json.finite_int n.toInt

@[simp] theorem finite_ofTexts (xs : List String) : (ofTexts xs).Finite := by simp [ofTexts]

/-- An entry that may be absent is finite if its value is, when there is one. -/
@[simp] theorem finite_present {α : Type} {key : String} {write : α → Json} {o : Option α} :
    (∀ e ∈ present key write o, e.2.Finite) ↔ ∀ x ∈ o, (write x).Finite := by
  cases o <;> simp [present]

/-- A list that may be left out is finite if its items are. -/
@[simp] theorem finite_nonempty {α : Type} {key : String} {write : α → Json} {xs : List α} :
    (∀ e ∈ nonempty key write xs, e.2.Finite) ↔ ∀ x ∈ xs, (write x).Finite := by
  cases xs <;> simp [nonempty]

end Wire

/-! ### Payloads -/

/-- Only the bounds of a field are floats. -/
theorem Field.finite_entries {f : Field} (h : f.Finite) : ∀ e ∈ f.entries, e.2.Finite := by
  have hmin : ∀ x ∈ f.min, (Json.float x).Finite := fun x hx => Json.finite_float (h.min x hx)
  have hmax : ∀ x ∈ f.max, (Json.float x).Finite := fun x hx => Json.finite_float (h.max x hx)
  simp only [entries, List.forall_mem_append, finite_present, finite_nonempty]
  simp
  exact ⟨hmin, hmax⟩

/-- A group is finite if the bounds of its fields are. -/
theorem Group.finite_toJson {g : Group} (h : ∀ f ∈ g.fields, f.field.Finite) :
    g.toJson.Finite := by
  have fields : ∀ f ∈ g.fields, f.toJson.Finite := fun f hf => by
    rw [GroupField.toJson, Json.finite_obj, List.forall_mem_cons]
    exact ⟨Json.finite_str f.id, Field.finite_entries (h f hf)⟩
  simpa [toJson] using fields

theorem Table.finite_toJson (t : Table) : t.toJson.Finite := by
  simp only [toJson, Json.finite_obj, List.forall_mem_append, finite_present]
  simp [TableColumn.toJson]

theorem Grid.finite_toJson (g : Grid) : g.toJson.Finite := by
  simp [toJson, GridRow.toJson, GridColumn.toJson]

theorem Checklist.finite_toJson (c : Checklist) : c.toJson.Finite := by
  simp [toJson, ChecklistItem.toJson]

theorem Header.finite_toJson (h : Header) : h.toJson.Finite := by
  simp only [toJson, Json.finite_obj, List.forall_mem_append, finite_present]
  simp

theorem Signature.finite_toJson (s : Signature) : s.toJson.Finite := by
  simp only [toJson, Json.finite_obj, List.forall_mem_append, finite_present]
  simp

theorem Notes.finite_toJson (n : Notes) : n.toJson.Finite := by
  simp [toJson]

mutual

/-- An item holds texts and flags only, and so do its children. -/
theorem NestedItem.finite_toJson : ∀ item : NestedItem, item.toJson.Finite
  | .mk key label itemType required children => by
    rw [toJson_eq, Json.finite_obj, entries, List.forall_mem_append, finite_nonempty]
    exact ⟨by simp, finite_each children⟩

/-- So do the items of a list. -/
theorem NestedItem.finite_each : ∀ items : List NestedItem, ∀ item ∈ items, item.toJson.Finite
  | [] => fun _ hitem => absurd hitem List.not_mem_nil
  | first :: rest => fun item hitem => by
    obtain same | hitem := List.mem_cons.mp hitem
    · rw [same]
      exact finite_toJson first
    · exact finite_each rest item hitem

end

theorem NestedChecklist.finite_toJson (c : NestedChecklist) : c.toJson.Finite := by
  rw [toJson, NestedItem.listToJson_eq_map]
  simp [NestedItem.finite_toJson]

theorem RadioGroup.finite_toJson (r : RadioGroup) : r.toJson.Finite := by
  simp only [toJson, Json.finite_obj, List.forall_mem_append, finite_present]
  simp [Choice.toJson]

theorem CheckboxGroup.finite_toJson (c : CheckboxGroup) : c.toJson.Finite := by
  simp only [toJson, Json.finite_obj, List.forall_mem_append, finite_present]
  simp [Choice.toJson]

/-- A time picker holds its times as texts. -/
theorem TimePicker.finite_toJson (t : TimePicker) : t.toJson.Finite := by
  simp only [toJson, Json.finite_obj, List.forall_mem_append, finite_present]
  simp

/-- A payload is finite if its bounds are: fields and groups have some, the others none. -/
theorem Payload.finite_toJson {data : Payload} (h : data.Finite) : data.toJson.Finite := by
  cases data with
  | field data => exact Json.finite_obj.mpr (Field.finite_entries h)
  | group data => exact Group.finite_toJson h
  | table data => exact data.finite_toJson
  | grid data => exact data.finite_toJson
  | checklist data => exact data.finite_toJson
  | formHeader data => exact data.finite_toJson
  | signature data => exact data.finite_toJson
  | notes data => exact data.finite_toJson
  | nestedChecklist data => exact data.finite_toJson
  | radioGroup data => exact data.finite_toJson
  | checkboxGroup data => exact data.finite_toJson
  | timePicker data => exact data.finite_toJson

/-! ### Forms -/

/-- A widget is finite if its payload is; what is foreign is not written. -/
theorem Widget.finite_toJson {w : Widget} (h : ∀ data, w.body = .payload data → data.Finite) :
    w.toJson.Finite := by
  simp only [toJson, Json.finite_obj, List.forall_mem_append, finite_present]
  have body : ∀ e ∈ w.body.entries, e.2.Finite := by
    cases hbody : w.body with
    | payload data => simpa [Body.entries] using Payload.finite_toJson (h data hbody)
    | missing kind => simp [Body.entries]
    | unknown raw => simp [Body.entries]
  exact ⟨⟨⟨⟨by simp, by simp⟩, by simp⟩, by simp⟩, body⟩

/-- A section is finite if its widgets are. -/
theorem Section.finite_toJson {s : Section} (h : ∀ w ∈ s.widgetList, w.toJson.Finite) :
    s.toJson.Finite := by
  simp only [toJson, Json.finite_obj, List.forall_mem_append, finite_present]
  refine ⟨by simp, fun ws hws => ?_⟩
  rw [widgetList, hws] at h
  simpa using h

/-- A page is finite if the widgets on it are. -/
theorem Page.finite_toJson {p : Page} (h : ∀ w ∈ p.widgetList, w.toJson.Finite) :
    p.toJson.Finite := by
  simp only [toJson, Json.finite_obj, List.forall_mem_append, finite_present]
  refine ⟨by simp, fun ss hss => ?_⟩
  rw [widgetList, hss] at h
  have section_ : ∀ s ∈ ss, s.toJson.Finite := fun s hs =>
    Section.finite_toJson fun w hw => h w (List.mem_flatMap.mpr ⟨s, hs, hw⟩)
  simpa using section_

theorem Storage.finite_toJson (s : Storage) : s.toJson.Finite := by
  simp only [toJson, Json.finite_obj, List.forall_mem_append, finite_present]
  simp

theorem Submission.finite_toJson (s : Submission) : s.toJson.Finite := by
  simp [toJson]

/-- Labels hold texts only. -/
theorem Form.finite_labels (labels : List (String × String)) :
    (Json.obj (labels.map fun l => (l.1, .str l.2))).Finite := by
  rw [Json.finite_obj, List.forall_mem_map]
  exact fun l _ => Json.finite_str l.2

/-- A form is finite if its bounds and its metadata are. -/
theorem Form.finite_toJson {f : Form} (h : f.Finite) : f.toJson.Finite := by
  have pages : ∀ p ∈ f.pages, p.toJson.Finite := fun p hp => Page.finite_toJson fun w hw =>
    Widget.finite_toJson (h.bounds w (List.mem_flatMap.mpr ⟨p, hp, hw⟩))
  rw [toJson, Json.finite_obj]
  simp only [List.forall_mem_append, finite_present]
  refine ⟨⟨⟨⟨⟨⟨⟨by simp, by simp⟩, by simp⟩, ?_⟩, h.metadata⟩, ?_⟩, ?_⟩, by simpa using pages⟩
  · exact fun labels _ => finite_labels labels
  · exact fun s _ => s.finite_toJson
  · exact fun s _ => s.finite_toJson

end EntryForm
