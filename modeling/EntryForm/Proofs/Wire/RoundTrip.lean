import Mathlib.Data.List.Nodup
import EntryForm.Proofs.Wire.Entries
import EntryForm.Proofs.Wire.Finite
import EntryForm.Proofs.Wire.Typed
import EntryForm.Proofs.Wire.Widgets

/-!
# Proofs — Wire — decoding what was encoded

* `Encodes slots es d d'`: the entries `es` are those of some of the slots, in the order of the
  slots, and putting their values takes the draft `d` to `d'`.  An optional slot may hold a null.
* `decode_of_encodes`: an object with such entries is decoded to `d'`.
* `Page.decode_of_sections` and its like, for each record: an object with its entries is decoded to
  it, whatever its parts were written as, as long as they are decoded.
* `decode_toJson`, for each record: what is written of it is decoded to it.  A widget comes back
  without its foreign payloads (`withoutForeign`), which are not written.
* `Form.roundTrip`: a form comes back without its foreign payloads, and is written the same again.
-/

namespace EntryForm.Wire

/-! ### Values -/

/-- A count is decoded as it was. -/
theorem decode_count (n : Count) : decode (ofCount n) .count = .ok n := by
  have hlow := n.le_toInt
  have hhigh := n.toInt_lt
  rw [ofCount, decode, countOfInt, if_pos ⟨hlow, hhigh⟩, Int64.ofInt_toInt]

/-- A list is decoded element by element. -/
theorem decode_list {α : Type} {s : Shape} {write : α → Json} (conv : α → s.Value) {xs : List α}
    (h : ∀ x ∈ xs, decode (write x) s = .ok (conv x)) :
    decode (.arr (xs.map write)) (.list s) = .ok (xs.map conv) := by
  rw [decode]
  induction xs with
  | nil => rfl
  | cons x xs ih =>
      rw [List.map_cons, decodeList, h x List.mem_cons_self, List.map_cons]
      rw [ih fun y hy => h y (List.mem_cons_of_mem _ hy)]
      rfl

/-- A list of elements that are decoded to themselves. -/
theorem decode_list_self {s : Shape} {write : s.Value → Json} {xs : List s.Value}
    (h : ∀ x ∈ xs, decode (write x) s = .ok x) :
    decode (.arr (xs.map write)) (.list s) = .ok xs := by
  rw [decode_list id h, List.map_id]

theorem decode_texts (texts : List String) :
    decode (.arr (texts.map .str)) (.list .text) = .ok texts :=
  decode_list_self (s := .text) fun _ _ => rfl

/-! ### Entries in the order of the slots -/

/-- Entries written for slots, each with the value that it puts into the draft, or with a null that
stands for an absent value. -/
inductive Encodes {σ : Type} : List (Slot σ) → List (String × Json) → σ → σ → Prop where
  | nil (d : σ) : Encodes [] [] d d
  | put {slot : Slot σ} {slots : List (Slot σ)} {es : List (String × Json)} {v : Json}
      {x : slot.shape.Value} {d d' : σ} (hx : decode v slot.shape = .ok x)
      (hv : slot.skips v = false) (rest : Encodes slots es (slot.put x d) d') :
      Encodes (slot :: slots) ((slot.key, v) :: es) d d'
  | null {slot : Slot σ} {slots : List (Slot σ)} {es : List (String × Json)} {d d' : σ}
      (hn : slot.nullable = true) (rest : Encodes slots es d d') :
      Encodes (slot :: slots) ((slot.key, .null) :: es) d d'
  | skip {slot : Slot σ} {slots : List (Slot σ)} {es : List (String × Json)} {d d' : σ}
      (rest : Encodes slots es d d') : Encodes (slot :: slots) es d d'

section Entries

variable {σ : Type} {slots : List (Slot σ)} {es : List (String × Json)} {d d' : σ}

/-- An absent value has no entry.  `set` says what a value does to the draft, and what none does;
`conv` is what is left of a value. -/
theorem Encodes.presentAs {α : Type} {slot : Slot σ} {write : α → Json} {o : Option α}
    (conv : α → slot.shape.Value) (set : Option slot.shape.Value → σ → σ) (hnone : set none d = d)
    (hsome : ∀ x, set (some x) d = slot.put x d)
    (hx : ∀ x ∈ o, decode (write x) slot.shape = .ok (conv x) ∧ slot.skips (write x) = false)
    (rest : Encodes slots es (set (o.map conv) d) d') :
    Encodes (slot :: slots) (Wire.present slot.key write o ++ es) d d' := by
  cases o with
  | none =>
      rw [Option.map_none, hnone] at rest
      exact .skip rest
  | some x =>
      rw [Option.map_some, hsome] at rest
      exact .put (hx x rfl).1 (hx x rfl).2 rest

/-- An optional value encodes a slot, whether it is there or not. -/
theorem Encodes.present {slot : Slot σ} {write : slot.shape.Value → Json}
    {o : Option slot.shape.Value} (set : Option slot.shape.Value → σ → σ) (hnone : set none d = d)
    (hsome : ∀ x, set (some x) d = slot.put x d)
    (hx : ∀ x, decode (write x) slot.shape = .ok x ∧ slot.skips (write x) = false)
    (rest : Encodes slots es (set o d) d') :
    Encodes (slot :: slots) (Wire.present slot.key write o ++ es) d d' := by
  refine .presentAs id set hnone hsome (fun x _ => hx x) ?_
  rwa [Option.map_id]

theorem Encodes.text {key : String} {put : Shape.text.Value → σ → σ} {o : Option String}
    (set : Option String → σ → σ) (hnone : set none d = d) (hsome : ∀ x, set (some x) d = put x d)
    (rest : Encodes slots es (set o d) d') :
    Encodes (.nullish key .text put :: slots) (Wire.present key .str o ++ es) d d' :=
  Encodes.present set hnone hsome (fun _ => ⟨rfl, rfl⟩) rest

theorem Encodes.count {key : String} {put : Shape.count.Value → σ → σ} {o : Option Count}
    (set : Option Count → σ → σ) (hnone : set none d = d) (hsome : ∀ x, set (some x) d = put x d)
    (rest : Encodes slots es (set o d) d') :
    Encodes (.nullish key .count put :: slots) (Wire.present key ofCount o ++ es) d d' :=
  Encodes.present set hnone hsome
    (fun n => ⟨decode_count n, rfl⟩) rest

/-- An empty list has no entry where the draft has an empty list anyway. -/
theorem Encodes.nonempty {key : String} {s : Shape} {put : (Shape.list s).Value → σ → σ}
    {write : s.Value → Json} {xs : List s.Value} (hempty : put [] d = d)
    (hx : decode (.arr (xs.map write)) (.list s) = .ok xs)
    (rest : Encodes slots es (put xs d) d') :
    Encodes (.plain key (.list s) put :: slots) (Wire.nonempty key write xs ++ es) d d' := by
  cases xs with
  | nil =>
      rw [hempty] at rest
      exact .skip rest
  | cons x xs => exact .put hx rfl rest

/-- Slots without entries. -/
theorem Encodes.skips (d : σ) : Encodes slots [] d d := by
  induction slots with
  | nil => exact .nil d
  | cons slot slots ih => exact .skip ih

/-- A single entry, of one of the slots. -/
theorem Encodes.single {slot : Slot σ} (h : slot ∈ slots) {v : Json} {x : slot.shape.Value}
    (hx : decode v slot.shape = .ok x) (hv : slot.skips v = false) :
    Encodes slots [(slot.key, v)] d (slot.put x d) := by
  induction slots with
  | nil => cases h
  | cons first rest ih =>
      obtain rfl | h := List.mem_cons.mp h
      · exact .put hx hv (.skips _)
      · exact .skip (ih h)

/-- Encoded entries come in the order of the slots, each key once at most. -/
theorem Encodes.keys (h : Encodes slots es d d') :
    (es.map Prod.fst).Sublist (slots.map Slot.key) := by
  induction h with
  | nil => exact .slnil
  | put _ _ _ ih => exact ih.cons_cons _
  | null _ _ ih => exact ih.cons_cons _
  | skip _ ih => exact ih.cons _

end Entries

/-! ### Objects -/

variable {r : Record} {es : List (String × Json)} {d d' : r.Draft}

theorem nodup_keys (r : Record) : (r.slots.map Slot.key).Nodup := by cases r <;> decide

/-- Where keys differ, a slot is found by its key. -/
theorem named?_of_mem {σ : Type} {slots : List (Slot σ)} {slot : Slot σ}
    (hn : (slots.map Slot.key).Nodup) (h : slot ∈ slots) :
    Slot.named? slot.key slots = some slot := by
  induction slots with
  | nil => cases h
  | cons first rest ih =>
      rw [List.map_cons, List.nodup_cons] at hn
      rw [Slot.named?, List.find?_cons]
      obtain rfl | h := List.mem_cons.mp h
      · rw [beq_self_eq_true]
      · have hne : first.key ≠ slot.key := fun e => hn.1 (e ▸ List.mem_map_of_mem h)
        rw [beq_false_of_ne hne]
        exact ih hn.2 h

/-- Encoded entries can be read one after another. -/
theorem Encodes.reads {slots : List (Slot r.Draft)} (hslots : slots ⊆ r.slots)
    (h : Encodes slots es d d') : Reads r es d d' := by
  induction h with
  | nil => exact reads_nil.mpr rfl
  | put hx hv _ ih =>
      have named := named?_of_mem (nodup_keys r) (hslots List.mem_cons_self)
      exact reads_cons.mpr ⟨_, readEntry_taken named hv hx,
        ih fun s hs => hslots (List.mem_cons_of_mem _ hs)⟩
  | null hn _ ih =>
      have named := named?_of_mem (nodup_keys r) (hslots List.mem_cons_self)
      exact reads_cons.mpr ⟨_, readEntry_skipped named (skips_iff.mpr ⟨rfl, hn⟩),
        ih fun s hs => hslots (List.mem_cons_of_mem _ hs)⟩
  | skip _ ih => exact ih fun s hs => hslots (List.mem_cons_of_mem _ hs)

/-- Entries that encode a draft are decoded as the draft. -/
theorem Encodes.decodeEntries (h : Encodes r.slots es r.blank d) :
    decodeEntries es r [] r.blank = .ok d := by
  refine decodeEntries_eq_ok.mpr ⟨h.reads fun _ => id, ?_, nofun⟩
  exact ((nodup_keys r).sublist h.keys).filter _

/-- Entries under unknown keys leave the draft as it is. -/
theorem decodeEntries_of_unknown {seen : List String}
    (h : ∀ key ∈ es.map Prod.fst, Slot.named? key r.slots = none) :
    decodeEntries es r seen d = .ok d := by
  induction es with
  | nil => rw [Wire.decodeEntries]
  | cons e rest ih =>
      rw [List.map_cons, List.forall_mem_cons] at h
      rw [decodeEntries_unknown h.1, ih h.2]

/-- An object of the entries of a record is decoded to what they come to. -/
theorem decode_of_encodes (r : Record) {d : r.Draft} (hr : r.inlined = none)
    (h : Encodes r.slots (es ++ []) r.blank d) :
    decode (.obj es) (.record r) = .ok (r.finish d) := by
  rw [List.append_nil] at h
  rw [decode, h.decodeEntries]
  simp only [bind, Except.bind, hr]

/-- An object is decoded to a record with another one flat within it if its entries are decoded to
both. -/
theorem decode_of_inlined {inlined : Inlined r.Draft} (hr : r.inlined = some inlined)
    {inner : inlined.record.Draft} (hown : decodeEntries es r [] r.blank = .ok d)
    (hinner : decodeEntries es inlined.record [] inlined.record.blank = .ok inner) :
    decode (.obj es) (.record r) =
      .ok (r.finish (inlined.put (inlined.record.finish inner) d)) := by
  rw [decode, hown]
  simp only [bind, Except.bind, hr, hinner]

end EntryForm.Wire

namespace EntryForm
open Wire

theorem Storage.decode_toJson (s : Storage) : decode s.toJson (.record .storage) = .ok s := by
  refine decode_of_encodes .storage rfl (d := s) ?_
  rw [List.append_assoc]
  refine .text (fun o d => { d with tableName := o }) rfl (fun _ => rfl) ?_
  refine .text (fun o d => { d with schema := o }) rfl (fun _ => rfl) ?_
  exact .nil s

theorem Submission.decode_toJson (s : Submission) :
    decode s.toJson (.record .submission) = .ok s := rfl

/-- The entries of a field encode it. -/
theorem Field.encodes (f : Field) : Encodes Record.field.slots (f.entries ++ []) {} f := by
  simp only [entries, List.append_assoc, List.cons_append, List.nil_append]
  refine .put rfl rfl ?_
  refine .text (fun o d => { d with label := o }) rfl (fun _ => rfl) ?_
  refine .put rfl rfl ?_
  refine .text (fun o d => { d with placeholder := o }) rfl (fun _ => rfl) ?_
  refine .text (fun o d => { d with defaultValue := o }) rfl (fun _ => rfl) ?_
  refine .text (fun o d => { d with unit := o }) rfl (fun _ => rfl) ?_
  refine .present (fun o d => { d with min := o }) rfl (fun _ => rfl) (fun _ => ⟨rfl, rfl⟩) ?_
  refine .present (fun o d => { d with max := o }) rfl (fun _ => rfl) (fun _ => ⟨rfl, rfl⟩) ?_
  refine .count (fun o d => { d with minLength := o }) rfl (fun _ => rfl) ?_
  refine .count (fun o d => { d with maxLength := o }) rfl (fun _ => rfl) ?_
  refine .text (fun o d => { d with pattern := o }) rfl (fun _ => rfl) ?_
  refine .nonempty rfl (decode_texts f.options) ?_
  exact .nil f

/-- A field is decoded as it was written. -/
theorem Field.decode_toJson (f : Field) : decode f.toJson (.record .field) = .ok f :=
  decode_of_encodes .field rfl f.encodes

/-- The keys of a field are not keys of its group. -/
theorem GroupField.named?_eq_none {es : List (String × Json)} {f : Field}
    (h : Encodes Record.field.slots (es ++ []) {} f) {key : String} (hkey : key ∈ es.map Prod.fst) :
    Slot.named? key Record.groupField.slots = none := by
  have keys := h.keys
  rw [List.append_nil] at keys
  have others : ∀ key ∈ Record.field.slots.map Slot.key, ("id" == key) = false := by decide
  rw [Slot.named?, Record.slots, List.find?_cons]
  rw [Slot.plain, others key (keys.subset hkey)]
  rfl

/-- The entries of a field of a group are read twice, for its identifier and for the field. -/
theorem GroupField.decode_of_encodes (id : String) {es : List (String × Json)} {f : Field}
    (h : Encodes Record.field.slots (es ++ []) {} f) :
    decode (.obj (("id", .str id) :: es)) (.record .groupField) = .ok { id, field := f } := by
  -- the identifier passes over the keys of the field, and the field over that of the identifier
  have own : decodeEntries (("id", .str id) :: es) .groupField [] {} = .ok { id } := by
    rw [decodeEntries_taken rfl List.not_mem_nil rfl rfl]
    exact decodeEntries_of_unknown fun key hkey => named?_eq_none h hkey
  have inner : decodeEntries (("id", .str id) :: es) .field [] {} = .ok f := by
    have read := h.decodeEntries
    rw [List.append_nil] at read
    rw [decodeEntries_unknown rfl]
    exact read
  exact decode_of_inlined (r := .groupField) (d := { id }) rfl own inner

/-- A field of a group is decoded from the entries of both records. -/
theorem GroupField.decode_toJson (f : GroupField) :
    decode f.toJson (.record .groupField) = .ok f :=
  decode_of_encodes f.id f.field.encodes

theorem Group.decode_toJson (g : Group) : decode g.toJson (.record .group) = .ok g := by
  refine decode_of_encodes .group rfl (d := g) ?_
  refine .put rfl rfl ?_
  exact .put (decode_list_self (s := .record .groupField) fun f _ =>
    GroupField.decode_toJson f) rfl (.nil g)

theorem Table.decode_toJson (t : Table) : decode t.toJson (.record .table) = .ok t := by
  refine decode_of_encodes .table rfl (d := t) ?_
  simp only [List.append_assoc, List.cons_append, List.nil_append]
  refine .put (decode_list_self (s := .record .tableColumn) fun _ _ => rfl) rfl ?_
  refine .count (fun o d => { d with minRows := o }) rfl (fun _ => rfl) ?_
  refine .count (fun o d => { d with maxRows := o }) rfl (fun _ => rfl) ?_
  exact .put rfl rfl (.nil t)

theorem Grid.decode_toJson (g : Grid) : decode g.toJson (.record .grid) = .ok g := by
  refine decode_of_encodes .grid rfl (d := g) ?_
  refine .put (decode_list_self (s := .record .gridRow) fun _ _ => rfl) rfl ?_
  exact .put (decode_list_self (s := .record .gridColumn) fun _ _ => rfl) rfl (.nil g)

theorem Checklist.decode_toJson (c : Checklist) :
    decode c.toJson (.record .checklist) = .ok c := by
  refine decode_of_encodes .checklist rfl (d := c) ?_
  exact .put (decode_list_self (s := .record .checklistItem) fun _ _ => rfl) rfl (.nil c)

theorem Header.decode_toJson (h : Header) : decode h.toJson (.record .header) = .ok h := by
  refine decode_of_encodes .header rfl (d := h) ?_
  simp only [List.append_assoc]
  refine .text (fun o d => { d with title := o }) rfl (fun _ => rfl) ?_
  refine .text (fun o d => { d with subtitle := o }) rfl (fun _ => rfl) ?_
  refine .text (fun o d => { d with documentNumber := o }) rfl (fun _ => rfl) ?_
  refine .text (fun o d => { d with revision := o }) rfl (fun _ => rfl) ?_
  refine .text (fun o d => { d with effectiveDate := o }) rfl (fun _ => rfl) ?_
  refine .text (fun o d => { d with logoUrl := o }) rfl (fun _ => rfl) ?_
  exact .nil h

theorem Signature.decode_toJson (s : Signature) :
    decode s.toJson (.record .signature) = .ok s := by
  refine decode_of_encodes .signature rfl (d := s) ?_
  simp only [List.append_assoc, List.cons_append, List.nil_append]
  refine .text (fun o d => { d with label := o }) rfl (fun _ => rfl) ?_
  refine .put (decode_count s.width) rfl ?_
  refine .put (decode_count s.height) rfl ?_
  exact .put rfl rfl (.put rfl rfl (.nil s))

theorem Notes.decode_toJson (n : Notes) : decode n.toJson (.record .notes) = .ok n := rfl

theorem RadioGroup.decode_toJson (r : RadioGroup) :
    decode r.toJson (.record .radioGroup) = .ok r := by
  refine decode_of_encodes .radioGroup rfl (d := r) ?_
  simp only [List.cons_append, List.nil_append]
  refine .put (decode_list_self (s := .record .choice) fun _ _ => rfl) rfl ?_
  refine .put rfl rfl ?_
  exact .text (fun o d => { d with defaultValue := o }) rfl (fun _ => rfl) (.nil r)

theorem CheckboxGroup.decode_toJson (c : CheckboxGroup) :
    decode c.toJson (.record .checkboxGroup) = .ok c := by
  refine decode_of_encodes .checkboxGroup rfl (d := c) ?_
  simp only [List.append_assoc, List.cons_append, List.nil_append]
  refine .put (decode_list_self (s := .record .choice) fun _ _ => rfl) rfl ?_
  refine .put rfl rfl ?_
  refine .count (fun o d => { d with minSelections := o }) rfl (fun _ => rfl) ?_
  refine .count (fun o d => { d with maxSelections := o }) rfl (fun _ => rfl) ?_
  exact .put (decode_count c.gridColumns) rfl (.nil c)

theorem TimePicker.decode_toJson (t : TimePicker) :
    decode t.toJson (.record .timePicker) = .ok t := by
  refine decode_of_encodes .timePicker rfl (d := t) ?_
  simp only [List.append_assoc, List.cons_append, List.nil_append]
  refine .put rfl rfl ?_
  refine .put (decode_count t.stepMinutes) rfl ?_
  refine .text (fun o d => { d with minTime := o }) rfl (fun _ => rfl) ?_
  refine .text (fun o d => { d with maxTime := o }) rfl (fun _ => rfl) ?_
  exact .text (fun o d => { d with defaultTime := o }) rfl (fun _ => rfl) (.nil t)

mutual

/-- An item is decoded as it was written, its children included. -/
theorem NestedItem.decode_toJson :
    ∀ item : NestedItem, decode item.toJson (.record .nestedItem) = .ok item
  | .mk key label itemType required children => by
    rw [toJson_eq]
    refine decode_of_encodes .nestedItem rfl (d := .mk key label itemType required children) ?_
    simp only [entries, List.cons_append, List.nil_append]
    refine .put rfl rfl (.put rfl rfl (.put rfl rfl (.put rfl rfl ?_)))
    have below := decode_list_self (s := .record .nestedItem) (decode_each children)
    exact .nonempty rfl below (.nil _)

/-- So is each item of a list. -/
theorem NestedItem.decode_each :
    ∀ items : List NestedItem, ∀ item ∈ items, decode item.toJson (.record .nestedItem) = .ok item
  | [] => nofun
  | first :: rest => fun item hitem => by
    obtain same | hitem := List.mem_cons.mp hitem
    · rw [same]
      exact decode_toJson first
    · exact decode_each rest item hitem

end

theorem NestedChecklist.decode_toJson (c : NestedChecklist) :
    decode c.toJson (.record .nestedChecklist) = .ok c := by
  rw [toJson, NestedItem.listToJson_eq_map]
  refine decode_of_encodes .nestedChecklist rfl (d := c) ?_
  refine .put (decode_list_self (s := .record .nestedItem) fun item _ =>
    NestedItem.decode_toJson item) rfl ?_
  refine .put rfl rfl ?_
  refine .put (decode_count c.indentSize) rfl ?_
  exact .put rfl rfl (.nil c)

/-! ### Widgets -/

/-- A payload is decoded as it was written, whatever its kind. -/
theorem Payload.decode_toJson (data : Payload) :
    Payload.decode data.kind data.toJson = .ok data := by
  cases data with
  | field data => exact decode_of_ok data.decode_toJson
  | group data => exact decode_of_ok data.decode_toJson
  | table data => exact decode_of_ok data.decode_toJson
  | grid data => exact decode_of_ok data.decode_toJson
  | checklist data => exact decode_of_ok data.decode_toJson
  | formHeader data => exact decode_of_ok data.decode_toJson
  | signature data => exact decode_of_ok data.decode_toJson
  | notes data => exact decode_of_ok data.decode_toJson
  | nestedChecklist data => exact decode_of_ok data.decode_toJson
  | radioGroup data => exact decode_of_ok data.decode_toJson
  | checkboxGroup data => exact decode_of_ok data.decode_toJson
  | timePicker data => exact decode_of_ok data.decode_toJson

/-- What is written of a widget. -/
def Widget.withoutForeign (w : Widget) : Widget := { w with foreign := [] }

/-- A widget while it is read, once everything that was written of it is there. -/
def Widget.draft (w : Widget) : WidgetDraft where
  id := w.id
  type := w.body.discriminator
  title := w.title
  help := w.help
  visibleIf := w.visibleIf
  payloads := w.body.payload?.toList

/-- A decoded payload wraps a decoded record of its kind. -/
theorem Payload.exists_wrap {kind : Kind} {v : Json} {data : Payload}
    (h : Payload.decode kind v = .ok data) :
    ∃ x, Wire.decode v (.record kind.record) = .ok x ∧ kind.wrap x = data := by
  unfold Payload.decode at h
  cases hx : Wire.decode v (.record kind.record) with
  | error e => rw [hx] at h; cases h
  | ok x =>
      rw [hx] at h
      exact ⟨x, rfl, Except.ok.inj h⟩

/-- The slots of a widget for payloads. -/
def payloadSlots : List (Slot WidgetDraft) :=
  Kind.all.map fun kind => payloadSlot kind kind.record kind.wrap

/-- The entry of a payload is put where payloads are collected. -/
theorem Body.encodes_payload {kind : Kind} {v : Json} {data : Payload}
    (h : Payload.decode kind v = .ok data)
    (hv : (payloadSlot kind kind.record kind.wrap).skips v = false) (d : WidgetDraft) :
    Encodes payloadSlots [(kind.name, v)] d { d with payloads := d.payloads ++ [data] } := by
  obtain ⟨x, hx, rfl⟩ := Payload.exists_wrap h
  have hmem := List.mem_map_of_mem (f := fun kind : Kind =>
    payloadSlot kind kind.record kind.wrap) (Kind.mem_all kind)
  have single := Encodes.single (d := d) hmem hx hv
  rwa [payloadSlot_put] at single

theorem Body.encodes_none (d : WidgetDraft) :
    Encodes payloadSlots [] d { d with payloads := d.payloads ++ [] } := by
  rw [List.append_nil]
  exact .skips d

/-- The entries of a body encode its payload, if it has one. -/
theorem Body.encodes (b : Body) (d : WidgetDraft) : Encodes payloadSlots (b.entries ++ []) d
    { d with payloads := d.payloads ++ b.payload?.toList } := by
  cases b with
  | payload data => exact encodes_payload data.decode_toJson (by cases data <;> rfl) d
  | missing kind => exact encodes_none d
  | unknown raw => exact encodes_none d

/-- The payload that was written is the body, and the type tells where there is none. -/
theorem Widget.body_draft (w : Widget) (h : w.Typed) : w.draft.widget.body = w.body := by
  rw [WidgetDraft.widget, draft]
  cases hbody : w.body with
  | payload data =>
      simp only [Body.discriminator, Body.payload?, Kind.ofName?_name, Option.toList_some,
        List.find?_cons, beq_self_eq_true]
  | missing kind =>
      simp only [Body.discriminator, Body.payload?, Kind.ofName?_name, Option.toList_none,
        List.find?_nil]
  | unknown raw => simp only [Body.discriminator, h raw hbody]

/-- Nothing foreign was written. -/
theorem Widget.foreign_draft (w : Widget) : w.draft.widget.foreign = [] := by
  rw [WidgetDraft.widget, draft, List.filter_eq_nil_iff]
  intro kind _
  cases w.body with
  | payload data =>
      -- the one payload is of the kind that the type names
      by_cases hkind : data.kind = kind
      · simp [Body.discriminator, hkind]
      · simp [Body.payload?, hkind]
  | missing other => simp [Body.payload?]
  | unknown raw => simp [Body.payload?]

/-- A draft of what was written becomes the widget without its foreign payloads. -/
theorem Widget.widget_draft (w : Widget) (h : w.Typed) : w.draft.widget = w.withoutForeign := by
  rw [withoutForeign, ← w.body_draft h, ← w.foreign_draft]
  rfl

/-- The entries of a widget are decoded to it, whatever entries `es` its payload is read from. -/
theorem Widget.decode_of_encodes (w : Widget) (h : w.Typed) {es : List (String × Json)}
    (hes : ∀ d, Encodes payloadSlots (es ++ []) d
      { d with payloads := d.payloads ++ w.body.payload?.toList }) :
    decode (.obj ([("id", .str w.id), ("type", .str w.body.discriminator)] ++
      present "title" .str w.title ++ present "help" .str w.help ++
      present "visible_if" .str w.visibleIf ++ es)) (.record .widget) = .ok w.withoutForeign := by
  rw [← w.widget_draft h]
  refine Wire.decode_of_encodes .widget rfl (d := w.draft) ?_
  simp only [List.append_assoc, List.cons_append, List.nil_append]
  refine .put rfl rfl (.put rfl rfl ?_)
  refine .text (fun o d => { d with title := o }) rfl (fun _ => rfl) ?_
  refine .text (fun o d => { d with help := o }) rfl (fun _ => rfl) ?_
  refine .text (fun o d => { d with visibleIf := o }) rfl (fun _ => rfl) ?_
  exact hes _

/-- A widget is decoded as it was written: without its foreign payloads. -/
theorem Widget.decode_toJson (w : Widget) (h : w.Typed) :
    decode w.toJson (.record .widget) = .ok w.withoutForeign :=
  w.decode_of_encodes h w.body.encodes

theorem Widget.toJson_withoutForeign (w : Widget) : w.withoutForeign.toJson = w.toJson := rfl

/-! ### Sections and pages -/

def Section.withoutForeign (s : Section) : Section :=
  { s with widgets := s.widgets.map fun ws => ws.map Widget.withoutForeign }

/-- A section is decoded to what its widgets are decoded to. -/
theorem Section.decode_of_widgets (s : Section) {write : Widget → Json} {conv : Widget → Widget}
    (h : ∀ w ∈ s.widgetList, decode (write w) (.record .widget) = .ok (conv w)) :
    decode (.obj ([("id", .str s.id), ("title", .str s.title)] ++
        present "widgets" (fun ws => .arr (ws.map write)) s.widgets)) (.record .section) =
      .ok { s with widgets := s.widgets.map fun ws => ws.map conv } := by
  refine decode_of_encodes .section rfl
    (d := { s with widgets := s.widgets.map fun ws => ws.map conv }) ?_
  simp only [List.cons_append, List.nil_append]
  refine .put rfl rfl (.put rfl rfl ?_)
  refine .presentAs (fun ws => ws.map conv)
    (fun o d => { d with widgets := o }) rfl (fun _ => rfl) (fun ws hws => ⟨?_, rfl⟩) (.nil _)
  refine decode_list (s := .record .widget) conv fun w hw => h w ?_
  rwa [widgetList, hws]

/-- A section is decoded as it was written. -/
theorem Section.decode_toJson (s : Section) (h : s.Typed) :
    decode s.toJson (.record .section) = .ok s.withoutForeign :=
  s.decode_of_widgets fun w hw => w.decode_toJson (h w hw)

/-- Nothing foreign is written of a section. -/
theorem Section.toJson_withoutForeign (s : Section) : s.withoutForeign.toJson = s.toJson := by
  cases h : s.widgets with
  | none => simp [toJson, withoutForeign, h]
  | some ws => simp [toJson, withoutForeign, h, present, Widget.toJson_withoutForeign]

def Page.withoutForeign (p : Page) : Page :=
  { p with sections := p.sections.map fun ss => ss.map Section.withoutForeign }

/-- A page is decoded to what its sections are decoded to. -/
theorem Page.decode_of_sections (p : Page) {write : Section → Json} {conv : Section → Section}
    (h : ∀ s ∈ p.sections.getD [], decode (write s) (.record .section) = .ok (conv s)) :
    decode (.obj ([("id", .str p.id), ("title", .str p.title)] ++
        present "sections" (fun ss => .arr (ss.map write)) p.sections)) (.record .page) =
      .ok { p with sections := p.sections.map fun ss => ss.map conv } := by
  refine decode_of_encodes .page rfl
    (d := { p with sections := p.sections.map fun ss => ss.map conv }) ?_
  simp only [List.cons_append, List.nil_append]
  refine .put rfl rfl (.put rfl rfl ?_)
  refine .presentAs (fun ss => ss.map conv)
    (fun o d => { d with sections := o }) rfl (fun _ => rfl) (fun ss hss => ⟨?_, rfl⟩) (.nil _)
  refine decode_list (s := .record .section) conv fun s hs => h s ?_
  rwa [hss]

/-- A page is decoded as it was written. -/
theorem Page.decode_toJson (p : Page) (h : p.Typed) :
    decode p.toJson (.record .page) = .ok p.withoutForeign :=
  p.decode_of_sections fun s hs =>
    s.decode_toJson fun w hw => h w (List.mem_flatMap.mpr ⟨s, hs, hw⟩)

/-- Nothing foreign is written of a page. -/
theorem Page.toJson_withoutForeign (p : Page) : p.withoutForeign.toJson = p.toJson := by
  cases h : p.sections with
  | none => simp [toJson, withoutForeign, h]
  | some ss => simp [toJson, withoutForeign, h, present, Section.toJson_withoutForeign]

/-! ### Forms -/

def Form.withoutForeign (f : Form) : Form := { f with pages := f.pages.map Page.withoutForeign }

/-- Labels are decoded as they were written. -/
theorem decode_labels (labels : List (String × String)) :
    decode (.obj (labels.map fun l => (l.1, .str l.2))) .labels = .ok labels := by
  rw [decode]
  induction labels with
  | nil => rfl
  | cons l rest ih => rw [List.map_cons, decodeLabels, ih]; rfl

/-- A form is decoded to what its pages are decoded to, and to what is written of its metadata. -/
theorem Form.decode_of_pages (f : Form) {write : Page → Json} {conv : Page → Page}
    (free : List (String × Json) → List (String × Json))
    (h : ∀ p ∈ f.pages, decode (write p) (.record .page) = .ok (conv p)) :
    decode (.obj ([("id", .str f.id), ("title", .str f.title), ("version", .str f.version)] ++
        present "description" .str f.description ++
        present "locales" ofTexts f.locales ++
        present "labels" (fun ls => .obj (ls.map fun l => (l.1, .str l.2))) f.labels ++
        present "metadata" (fun es => .obj (free es)) f.metadata ++
        present "options" Submission.toJson f.options ++
        present "storage" Storage.toJson f.storage ++
        [("pages", .arr (f.pages.map write))])) (.record .form) =
      .ok { f with metadata := f.metadata.map free, pages := f.pages.map conv } := by
  refine decode_of_encodes .form rfl
    (d := { f with metadata := f.metadata.map free, pages := f.pages.map conv }) ?_
  simp only [List.append_assoc, List.cons_append, List.nil_append]
  refine .put rfl rfl (.put rfl rfl (.put rfl rfl ?_))
  refine .text (fun o d => { d with description := o }) rfl (fun _ => rfl) ?_
  refine .present (fun o d => { d with locales := o }) rfl (fun _ => rfl)
    (fun ls => ⟨decode_texts ls, rfl⟩) ?_
  refine .present (fun o d => { d with labels := o }) rfl (fun _ => rfl)
    (fun ls => ⟨decode_labels ls, rfl⟩) ?_
  refine .presentAs free (fun o d => { d with metadata := o }) rfl (fun _ => rfl)
    (fun _ _ => ⟨rfl, rfl⟩) ?_
  refine .present (fun o d => { d with options := o }) rfl (fun _ => rfl)
    (fun s => ⟨Submission.decode_toJson s, rfl⟩) ?_
  refine .present (fun o d => { d with storage := o }) rfl (fun _ => rfl)
    (fun s => ⟨Storage.decode_toJson s, rfl⟩) ?_
  exact .put (decode_list (s := .record .page) conv h) rfl (.nil _)

/-- A form is decoded as it was written. -/
theorem Form.decode_toJson (f : Form) (h : f.Typed) :
    decode f.toJson (.record .form) = .ok f.withoutForeign := by
  have read := f.decode_of_pages (fun entries => entries) fun p hp =>
    p.decode_toJson fun w hw => h w (List.mem_flatMap.mpr ⟨p, hp, hw⟩)
  rwa [Option.map_id'] at read

/-- Nothing foreign is written of a form. -/
theorem Form.toJson_withoutForeign (f : Form) : f.withoutForeign.toJson = f.toJson := by
  simp [toJson, withoutForeign, Page.toJson_withoutForeign]

/-- A form that is written and read again is the same but for foreign payloads, and it is written
the same.  The condition on types holds of every form that has been read.  Where all numbers are
finite, nothing is lost to null in writing. -/
theorem Form.roundTrip : (∀ v f, decode v (.record .form) = .ok f → f.Typed) ∧
    ∀ f : Form, f.Typed → decode f.toJson (.record .form) = .ok f.withoutForeign ∧
      f.withoutForeign.toJson = f.toJson ∧ (f.Finite → f.toJson.written = f.toJson) :=
  ⟨fun _ _ h => typed_of_decode h,
    fun f h => ⟨f.decode_toJson h, f.toJson_withoutForeign, finite_toJson⟩⟩

/-- A form with a foreign payload and with an unknown type. -/
theorem Form.roundTrip_foreign :
    let w : Widget := { id := "w", body := .payload (.notes {}), foreign := [.table] }
    let other : Widget := { id := "x", body := .unknown "gauge" }
    let f : Form := { pages := [{ sections := some [{ widgets := some [w, other] }] }] }
    f.Typed ∧ f.Finite ∧ decode f.toJson (.record .form) = .ok f.withoutForeign ∧
      f.withoutForeign.toJson = f.toJson ∧ f.toJson.written = f.toJson := by
  intro w other f
  have widgets : ∀ u ∈ f.widgets, u = w ∨ u = other := by
    simp [f, Form.widgets, Page.widgetList, Section.widgetList]
  have typed : f.Typed := by
    intro u hu raw hraw
    obtain rfl | rfl := widgets u hu
    · cases hraw
    · cases hraw
      decide
  have finite : f.Finite := by
    refine ⟨fun u hu data hdata => ?_, fun _ h => by cases h⟩
    obtain rfl | rfl := widgets u hu
    · obtain rfl := Body.payload.inj hdata
      trivial
    · cases hdata
  obtain ⟨decoded, again, written⟩ := roundTrip.2 f typed
  exact ⟨typed, finite, decoded, again, written finite⟩

end EntryForm
