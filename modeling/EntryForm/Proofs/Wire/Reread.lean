import EntryForm.Proofs.Wire.RoundTrip

/-!
# Proofs — Wire — what comes back from JSON

A bound that is not finite is written as null, and null is read as no bound.  Payloads of other
kinds than the type are not written at all.  Everything else comes back.

* `writtenEntries_…`: what is written of entries, entry by entry.
* `reread`, of each record: what comes back of it.
* `decode_written`: it does come back, from what is written of the record.
-/

namespace EntryForm

/-! ### What is written of entries -/

namespace Json

variable {α : Type} {key : String} {write : α → Json}

theorem writtenItems_map (xs : List α) :
    writtenItems (xs.map write) = xs.map fun x => (write x).written := by
  rw [writtenItems_eq_map, List.map_map]
  rfl

theorem writtenEntries_append (es fs : List (String × Json)) :
    writtenEntries (es ++ fs) = writtenEntries es ++ writtenEntries fs := by
  simp only [writtenEntries_eq_map, List.map_append]

/-- What is written of an entry that may be absent. -/
theorem writtenEntries_present (o : Option α) : writtenEntries (Wire.present key write o) =
    Wire.present key (fun x => (write x).written) o := by
  cases o <;> rfl

/-- What is written of a list that may be left out. -/
theorem writtenEntries_nonempty (xs : List α) : writtenEntries (Wire.nonempty key write xs) =
    Wire.nonempty key (fun x => (write x).written) xs := by
  cases xs with
  | nil => rfl
  | cons x rest =>
      exact congrArg (fun items => [(key, arr items)]) (writtenItems_map (x :: rest))

end Json

open Json Wire

/-! ### Fields -/

/-- A number that may be absent is left out also where null is written for it. -/
theorem Wire.Encodes.finite {σ : Type} {slots : List (Slot σ)} {es : List (String × Json)}
    {d d' : σ} {key : String} {put : Shape.number.Value → σ → σ} {o : Option Float}
    (set : Option Float → σ → σ) (hnone : set none d = d) (hsome : ∀ x, set (some x) d = put x d)
    (rest : Encodes slots es (set (o.filter Float.isFinite) d) d') :
    Encodes (.nullish key .number put :: slots)
      (Wire.present key (fun x => (Json.float x).written) o ++ es) d d' := by
  cases o with
  | none => exact .skip (hnone ▸ rest)
  | some x =>
      rw [Option.filter_some] at rest
      rw [Wire.present, List.cons_append, List.nil_append, written]
      split
      · next hx =>
        rw [if_pos hx, hsome] at rest
        exact .put rfl rfl rest
      · next hx =>
        rw [if_neg hx, hnone] at rest
        exact .null rfl rest

/-- The field with its finite bounds only. -/
def Field.reread (f : Field) : Field :=
  { f with min := f.min.filter Float.isFinite, max := f.max.filter Float.isFinite }

/-- What is written of a field encodes it with its finite bounds only. -/
theorem Field.encodes_written (f : Field) :
    Encodes Record.field.slots (writtenEntries f.entries ++ []) {} f.reread := by
  simp only [entries, writtenEntries_append, writtenEntries_present, writtenEntries_nonempty,
    writtenEntries, List.append_assoc, List.cons_append, List.nil_append]
  refine .put rfl rfl ?_
  refine .text (fun o d => { d with label := o }) rfl (fun _ => rfl) ?_
  refine .put rfl rfl ?_
  refine .text (fun o d => { d with placeholder := o }) rfl (fun _ => rfl) ?_
  refine .text (fun o d => { d with defaultValue := o }) rfl (fun _ => rfl) ?_
  refine .text (fun o d => { d with unit := o }) rfl (fun _ => rfl) ?_
  refine .finite (fun o d => { d with min := o }) rfl (fun _ => rfl) ?_
  refine .finite (fun o d => { d with max := o }) rfl (fun _ => rfl) ?_
  refine .count (fun o d => { d with minLength := o }) rfl (fun _ => rfl) ?_
  refine .count (fun o d => { d with maxLength := o }) rfl (fun _ => rfl) ?_
  refine .text (fun o d => { d with pattern := o }) rfl (fun _ => rfl) ?_
  refine .nonempty rfl (decode_texts f.options) ?_
  exact .nil f.reread

/-- A field comes back with its finite bounds only. -/
theorem Field.decode_written (f : Field) :
    decode f.toJson.written (.record .field) = .ok f.reread := by
  rw [toJson, written]
  exact decode_of_encodes .field rfl f.encodes_written

/-! ### Payloads -/

def GroupField.reread (f : GroupField) : GroupField := { f with field := f.field.reread }

theorem GroupField.decode_written (f : GroupField) :
    decode f.toJson.written (.record .groupField) = .ok f.reread := by
  rw [toJson, written, writtenEntries, written]
  exact decode_of_encodes f.id f.field.encodes_written

def Group.reread (g : Group) : Group := { g with fields := g.fields.map GroupField.reread }

/-- A group comes back with the finite bounds of its fields only. -/
theorem Group.decode_written (g : Group) :
    decode g.toJson.written (.record .group) = .ok g.reread := by
  simp only [toJson, written, writtenEntries, writtenItems_map]
  refine decode_of_encodes .group rfl (d := g.reread) (.put rfl rfl ?_)
  exact .put (decode_list (s := .record .groupField) GroupField.reread fun f _ =>
    GroupField.decode_written f) rfl (.nil g.reread)

/-- Only fields have bounds that JSON cannot hold. -/
def Payload.reread : Payload → Payload
  | .field data => .field data.reread
  | .group data => .group data.reread
  | data => data

/-- A payload comes back with its finite bounds only. -/
theorem Payload.decode_written (data : Payload) :
    Payload.decode data.kind data.toJson.written = .ok data.reread := by
  -- the payloads of the other kinds are written as they are
  have same (h : data.Finite) : Payload.decode data.kind data.toJson.written = .ok data := by
    rw [finite_toJson h, decode_toJson]
  cases data with
  | field data => exact decode_of_ok data.decode_written
  | group data => exact decode_of_ok data.decode_written
  | table data => exact same trivial
  | grid data => exact same trivial
  | checklist data => exact same trivial
  | formHeader data => exact same trivial
  | signature data => exact same trivial
  | notes data => exact same trivial
  | nestedChecklist data => exact same trivial
  | radioGroup data => exact same trivial
  | checkboxGroup data => exact same trivial
  | timePicker data => exact same trivial

/-- A payload that is reread is of the same kind. -/
theorem Payload.kind_reread (data : Payload) : data.reread.kind = data.kind := by
  cases data <;> rfl

/-! ### Widgets -/

def Body.reread : Body → Body
  | .payload data => .payload data.reread
  | body => body

theorem Body.discriminator_reread (b : Body) : b.reread.discriminator = b.discriminator := by
  cases b with
  | payload data => exact congrArg Kind.name data.kind_reread
  | missing kind => rfl
  | unknown raw => rfl

/-- What is written of a body encodes its payload, if it has one. -/
theorem Body.encodes_written (b : Body) (d : WidgetDraft) :
    Encodes payloadSlots (writtenEntries b.entries ++ []) d
      { d with payloads := d.payloads ++ b.reread.payload?.toList } := by
  cases b with
  | payload data =>
      exact encodes_payload data.decode_written (by cases data <;> rfl) d
  | missing kind => exact encodes_none d
  | unknown raw => exact encodes_none d

/-- The widget without its foreign payloads and with finite bounds only. -/
def Widget.reread (w : Widget) : Widget := { w with body := w.body.reread, foreign := [] }

/-- A widget that is typed is so after rereading. -/
theorem Widget.typed_reread {w : Widget} (h : w.Typed) : w.reread.Typed := by
  intro raw hraw
  cases hbody : w.body with
  | payload data => simp [reread, Body.reread, hbody] at hraw
  | missing kind => simp [reread, Body.reread, hbody] at hraw
  | unknown other =>
      simp only [reread, Body.reread, hbody, Body.unknown.injEq] at hraw
      exact hraw ▸ h other hbody

/-- A widget comes back without its foreign payloads. -/
theorem Widget.decode_written (w : Widget) (h : w.Typed) :
    decode w.toJson.written (.record .widget) = .ok w.reread := by
  have read := w.reread.decode_of_encodes (typed_reread h) w.body.encodes_written
  simp only [toJson, written, writtenEntries_append, writtenEntries_present, writtenEntries]
  rwa [reread, Body.discriminator_reread] at read

/-! ### Sections, pages and forms -/

def Section.reread (s : Section) : Section :=
  { s with widgets := s.widgets.map fun ws => ws.map Widget.reread }

/-- A section comes back with its widgets reread. -/
theorem Section.decode_written (s : Section) (h : s.Typed) :
    decode s.toJson.written (.record .section) = .ok s.reread := by
  simp only [toJson, written, writtenEntries_append, writtenEntries_present, writtenEntries,
    writtenItems_map]
  exact s.decode_of_widgets fun w hw => w.decode_written (h w hw)

def Page.reread (p : Page) : Page :=
  { p with sections := p.sections.map fun ss => ss.map Section.reread }

/-- A page comes back with its sections reread. -/
theorem Page.decode_written (p : Page) (h : p.Typed) :
    decode p.toJson.written (.record .page) = .ok p.reread := by
  simp only [toJson, written, writtenEntries_append, writtenEntries_present, writtenEntries,
    writtenItems_map]
  exact p.decode_of_sections fun s hs =>
    s.decode_written fun w hw => h w (List.mem_flatMap.mpr ⟨s, hs, hw⟩)

/-- The form without foreign payloads, with finite bounds only, and with what is written of its
metadata. -/
def Form.reread (f : Form) : Form :=
  { f with metadata := f.metadata.map writtenEntries, pages := f.pages.map Page.reread }

/-- What is written of a form is decoded as the form reread. -/
theorem Form.decode_written (f : Form) (h : f.Typed) :
    decode f.toJson.written (.record .form) = .ok f.reread := by
  have locales (xs : List String) : (ofTexts xs).written = ofTexts xs := finite_ofTexts xs
  have labels (ls : List (String × String)) : writtenEntries (ls.map fun l => (l.1, .str l.2)) =
      ls.map fun l => (l.1, .str l.2) := by
    have same := finite_labels ls
    rw [Json.Finite, written] at same
    exact Json.obj.inj same
  have options (s : Submission) : s.toJson.written = s.toJson := s.finite_toJson
  have storage (s : Storage) : s.toJson.written = s.toJson := s.finite_toJson
  simp only [toJson, written, writtenEntries_append, writtenEntries_present, writtenEntries,
    writtenItems_map, locales, labels, options, storage]
  exact f.decode_of_pages writtenEntries fun p hp =>
    p.decode_written fun w hw => h w (List.mem_flatMap.mpr ⟨p, hp, hw⟩)

end EntryForm
