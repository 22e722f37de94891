import EntryForm.Proofs.Wire.Entries

/-!
# Proofs — Wire — reading a widget

What the object of a widget says by itself: its type (`Json.typeText`), the kinds of payloads that
it has (`Json.payloadKinds`) and what it has under their keys.

* `readEntry_widget`: what one entry can do to a widget that is being read.
* `Reads.type`, `Reads.payloads`: what a run over all the entries comes to.
* `body_of_decode`, `foreign_of_decode`: the body of a widget that has been read and its foreign
  payloads, in terms of its object.
-/

namespace EntryForm
open Wire

/-- The text under `type`, empty where there is none. -/
def Json.typeText (v : Json) : String :=
  match v.get? "type" with
  | some (.str t) => t
  | _ => ""

/-- There is a value other than null under the name of the kind. -/
def Json.holds (v : Json) (kind : Kind) : Bool :=
  match v.get? kind.name with
  | none | some .null => false
  | some _ => true

/-- The kinds of payloads that an object has. -/
def Json.payloadKinds (v : Json) : List Kind := Kind.all.filter v.holds

/-- The payload of that kind with the data given. -/
def Kind.wrap : (kind : Kind) → kind.record.Result → Payload
  | .field => .field
  | .group => .group
  | .table => .table
  | .grid => .grid
  | .checklist => .checklist
  | .formHeader => .formHeader
  | .signature => .signature
  | .notes => .notes
  | .nestedChecklist => .nestedChecklist
  | .radioGroup => .radioGroup
  | .checkboxGroup => .checkboxGroup
  | .timePicker => .timePicker

theorem Kind.kind_wrap (kind : Kind) (data : kind.record.Result) :
    (kind.wrap data).kind = kind := by
  cases kind <;> rfl

theorem Kind.name_ne_type (kind : Kind) : kind.name ≠ "type" := by cases kind <;> decide

/-- Reads a value as a payload of that kind. -/
def Payload.decode (kind : Kind) (v : Json) : Except Mismatch Payload :=
  (Wire.decode v (.record kind.record)).map kind.wrap

theorem Payload.decode_of_ok {kind : Kind} {v : Json} {x : kind.record.Result}
    (h : Wire.decode v (.record kind.record) = .ok x) :
    Payload.decode kind v = .ok (kind.wrap x) := by
  rw [Payload.decode, h]
  rfl

/-- A payload is of the kind that it is decoded as. -/
theorem Payload.kind_of_decode {kind : Kind} {v : Json} {data : Payload}
    (h : Payload.decode kind v = .ok data) : data.kind = kind := by
  unfold Payload.decode at h
  cases hx : Wire.decode v (.record kind.record) with
  | error e => rw [hx] at h; cases h
  | ok x =>
      rw [hx] at h
      obtain rfl := Except.ok.inj h
      exact kind.kind_wrap x

namespace Wire

/-! ### One entry -/

/-- Under the name of a kind a widget has the slot for its payload. -/
theorem named?_kind (kind : Kind) : Slot.named? kind.name Record.widget.slots =
    some (payloadSlot kind kind.record kind.wrap) := by
  cases kind <;> rfl

theorem payloadSlot_put (kind : Kind) (r : Record) (wrap : r.Result → Payload) (x : r.Result)
    (d : WidgetDraft) : (payloadSlot kind r wrap).put x d =
      { d with payloads := d.payloads ++ [wrap x] } := rfl

theorem payloadSlot_key (kind : Kind) (r : Record) (wrap : r.Result → Payload) :
    (payloadSlot kind r wrap).key = kind.name := rfl

/-- A slot of a widget is for a kind of payload, or for the type, or changes neither. -/
theorem mem_slots_widget {slot : Slot WidgetDraft} (h : slot ∈ Record.widget.slots) :
    (∃ kind : Kind, slot.key = kind.name) ∨ slot.key = "type" ∨
      ∀ x d, (slot.put x d).type = d.type ∧ (slot.put x d).payloads = d.payloads := by
  simp only [Record.slots, List.mem_cons, List.not_mem_nil, or_false] at h
  obtain rfl | rfl | rfl | rfl | rfl | h := h
  · exact .inr (.inr fun _ _ => ⟨rfl, rfl⟩)
  · exact .inr (.inl rfl)
  · exact .inr (.inr fun _ _ => ⟨rfl, rfl⟩)
  · exact .inr (.inr fun _ _ => ⟨rfl, rfl⟩)
  · exact .inr (.inr fun _ _ => ⟨rfl, rfl⟩)
  · refine .inl ?_
    obtain rfl | rfl | rfl | rfl | rfl | rfl | rfl | rfl | rfl | rfl | rfl | rfl := h
    all_goals exact ⟨_, payloadSlot_key ..⟩

/-- Only a text is decoded as one. -/
theorem decode_text_eq_ok {v : Json} {t : String} : decode v .text = .ok t ↔ v = .str t := by
  constructor
  · intro h
    cases v with
    | str s => exact congrArg Json.str (Except.ok.inj h)
    | _ => cases h
  · rintro rfl
    rfl

/-- What an entry can do to a widget that is being read. -/
theorem readEntry_widget {d d' : WidgetDraft} {key : String} {v : Json}
    (h : readEntry .widget d (key, v) = .ok d') :
    (∃ kind : Kind, key = kind.name ∧ v ≠ .null ∧ ∃ data, Payload.decode kind v = .ok data ∧
      d' = { d with payloads := d.payloads ++ [data] }) ∨
    (∃ kind : Kind, key = kind.name ∧ v = .null ∧ d' = d) ∨
    (key = "type" ∧ ∃ t, v = .str t ∧ d' = { d with type := t }) ∨
    ((∀ kind : Kind, key ≠ kind.name) ∧ key ≠ "type" ∧ d'.type = d.type ∧
      d'.payloads = d.payloads) := by
  have step := readEntry_eq_ok h
  by_cases hkind : ∃ kind : Kind, key = kind.name
  · obtain ⟨kind, rfl⟩ := hkind
    obtain ⟨hs, -⟩ | ⟨slot, hs, hv, rfl⟩ | ⟨slot, hs, hv, x, hx, rfl⟩ := step
    · rw [named?_kind] at hs
      cases hs
    · exact .inr (.inl ⟨kind, rfl, (skips_iff.mp hv).1, rfl⟩)
    · rw [named?_kind] at hs
      obtain rfl := Option.some.inj hs
      have hne : v ≠ .null := by
        rintro rfl
        cases hv
      exact .inl ⟨kind, rfl, hne, kind.wrap x, Payload.decode_of_ok hx, rfl⟩
  · by_cases htype : key = "type"
    · subst htype
      have named : Slot.named? "type" Record.widget.slots =
          some (.plain "type" .text fun v d => { d with type := v }) := rfl
      rw [named] at step
      obtain ⟨hs, -⟩ | ⟨slot, hs, hv, rfl⟩ | ⟨slot, hs, hv, x, hx, rfl⟩ := step
      · cases hs
      · obtain rfl := Option.some.inj hs
        cases (skips_iff.mp hv).2
      · obtain rfl := Option.some.inj hs
        exact .inr (.inr (.inl ⟨rfl, x, decode_text_eq_ok.mp hx, rfl⟩))
    · -- a slot with another key changes neither the type nor the payloads
      refine .inr (.inr (.inr ⟨not_exists.mp hkind, htype, ?_⟩))
      obtain ⟨-, rfl⟩ | ⟨slot, hs, hv, rfl⟩ | ⟨slot, hs, hv, x, hx, rfl⟩ := step
      · exact ⟨rfl, rfl⟩
      · exact ⟨rfl, rfl⟩
      · obtain ⟨hslot, hkey⟩ := named?_eq_some hs
        obtain ⟨kind, hk⟩ | ht | same := mem_slots_widget hslot
        · exact absurd ⟨kind, hkey ▸ hk⟩ hkind
        · exact absurd (hkey ▸ ht) htype
        · exact same x d

/-! ### All the entries -/

/-- The payloads of one kind among those met. -/
def WidgetDraft.ofKind (kind : Kind) (d : WidgetDraft) : List Payload :=
  d.payloads.filter (·.kind == kind)

theorem WidgetDraft.head?_ofKind (kind : Kind) (d : WidgetDraft) :
    (d.ofKind kind).head? = d.payloads.find? (·.kind == kind) := List.head?_filter

theorem WidgetDraft.any_eq_ofKind (kind : Kind) (d : WidgetDraft) :
    d.payloads.any (·.kind == kind) = !(d.ofKind kind).isEmpty := by
  rw [ofKind, Bool.eq_iff_iff]
  simp

/-- An entry under the name of a kind is null, or adds a payload of the kind. -/
theorem readEntry_kind {d d' : WidgetDraft} {kind : Kind} {v : Json}
    (h : readEntry .widget d (kind.name, v) = .ok d') :
    v = .null ∧ d'.ofKind kind = d.ofKind kind ∨
      v ≠ .null ∧ ∃ data, Payload.decode kind v = .ok data ∧
        d'.ofKind kind = d.ofKind kind ++ [data] := by
  obtain ⟨other, hk, hv, data, hdata, rfl⟩ | ⟨other, hk, hv, rfl⟩ | ⟨hk, -⟩ | ⟨hk, -⟩ :=
    readEntry_widget h
  · obtain rfl := Kind.name_injective hk
    have := Payload.kind_of_decode hdata
    exact .inr ⟨hv, data, hdata, by simp [WidgetDraft.ofKind, this]⟩
  · exact .inl ⟨hv, rfl⟩
  · exact absurd hk kind.name_ne_type
  · exact absurd rfl (hk kind)

/-- An entry under another key leaves the payloads of a kind as they are. -/
theorem ofKind_of_ne {d d' : WidgetDraft} {kind : Kind} {key : String} {v : Json}
    (h : readEntry .widget d (key, v) = .ok d') (hne : key ≠ kind.name) :
    d'.ofKind kind = d.ofKind kind := by
  obtain ⟨other, rfl, -, data, hdata, rfl⟩ | ⟨-, -, -, rfl⟩ | ⟨-, t, -, rfl⟩ | ⟨-, -, -, same⟩ :=
    readEntry_widget h
  · have : data.kind ≠ kind := by
      rw [Payload.kind_of_decode hdata]
      rintro rfl
      exact hne rfl
    simp [WidgetDraft.ofKind, this]
  · rfl
  · rfl
  · rw [WidgetDraft.ofKind, same, WidgetDraft.ofKind]

/-- A run puts the payload under the name of a kind, if there is one, behind those of that kind. -/
theorem Reads.payloads {seen : List String} {es : List (String × Json)} {d d' : WidgetDraft}
    (h : Reads .widget es d d') (hkeys : NewAfter seen (knownKeys .widget es)) (kind : Kind) :
    (es.lookup kind.name = none ∨ es.lookup kind.name = some .null) ∧
        d'.ofKind kind = d.ofKind kind ∨
      ∃ v data, es.lookup kind.name = some v ∧ v ≠ .null ∧ Payload.decode kind v = .ok data ∧
        d'.ofKind kind = d.ofKind kind ++ [data] := by
  have named : (Slot.named? kind.name Record.widget.slots).isSome := by
    rw [named?_kind]
    rfl
  obtain ⟨hnone, same⟩ | ⟨v, m, m', hv, hm, before, after⟩ := h.under named ofKind_of_ne hkeys
  · exact .inl ⟨.inl hnone, same⟩
  · obtain ⟨rfl, hput⟩ | ⟨hne, data, hdata, hput⟩ := readEntry_kind hm
    · exact .inl ⟨.inr hv, by rw [after, hput, before]⟩
    · exact .inr ⟨v, data, hv, hne, hdata, by rw [after, hput, before]⟩

/-- An entry under the type sets it, and has to be a text. -/
theorem readEntry_type {d d' : WidgetDraft} {v : Json}
    (h : readEntry .widget d ("type", v) = .ok d') : v = .str d'.type := by
  obtain ⟨kind, hk, -⟩ | ⟨kind, hk, -⟩ | ⟨-, t, rfl, rfl⟩ | ⟨-, hne, -⟩ := readEntry_widget h
  · exact absurd hk.symm kind.name_ne_type
  · exact absurd hk.symm kind.name_ne_type
  · rfl
  · exact absurd rfl hne

/-- An entry under another key leaves the type as it is. -/
theorem type_of_ne {d d' : WidgetDraft} {key : String} {v : Json}
    (h : readEntry .widget d (key, v) = .ok d') (hne : key ≠ "type") : d'.type = d.type := by
  obtain ⟨-, -, -, -, -, rfl⟩ | ⟨-, -, -, rfl⟩ | ⟨hk, -⟩ | ⟨-, -, same, -⟩ := readEntry_widget h
  · rfl
  · rfl
  · exact absurd hk hne
  · exact same

/-- A run takes over the text under `type`, if there is one. -/
theorem Reads.type {seen : List String} {es : List (String × Json)} {d d' : WidgetDraft}
    (h : Reads .widget es d d') (hkeys : NewAfter seen (knownKeys .widget es)) :
    es.lookup "type" = none ∧ d'.type = d.type ∨ es.lookup "type" = some (.str d'.type) := by
  obtain same | ⟨v, m, m', hv, hm, -, after⟩ :=
    h.under (f := WidgetDraft.type) rfl type_of_ne hkeys
  · exact .inl same
  · rw [hv, readEntry_type hm, after]
    exact .inr rfl

/-! ### The widget -/

/-- A decoded object comes from a draft with its type and, of each kind, the one payload that it
has, if it has one. -/
theorem widget_of_decode {entries : List (String × Json)} {w : Widget}
    (h : decode (.obj entries) (.record .widget) = .ok w) : ∃ d : WidgetDraft, w = d.widget ∧
      d.type = (Json.obj entries).typeText ∧ ∀ kind,
        (Json.obj entries).holds kind = false ∧ d.ofKind kind = [] ∨
        (Json.obj entries).holds kind = true ∧ ∃ content data,
          (Json.obj entries).get? kind.name = some content ∧
          Payload.decode kind content = .ok data ∧ d.ofKind kind = [data] := by
  rw [decode] at h
  cases hd : decodeEntries entries .widget [] {} with
  | error e => rw [Record.blank, hd] at h; cases h
  | ok d =>
      rw [Record.blank, hd] at h
      obtain rfl := Except.ok.inj h
      obtain ⟨hreads, hkeys⟩ := decodeEntries_eq_ok.mp hd
      refine ⟨d, rfl, ?_, fun kind => ?_⟩
      · obtain ⟨hnone, htype⟩ | htype := hreads.type hkeys
        · rw [Json.typeText, Json.get?, hnone, htype]
        · rw [Json.typeText, Json.get?, htype]
      · rw [Json.holds, Json.get?]
        obtain ⟨hnone | hnull, hput⟩ | ⟨v, data, hv, hne, hdata, hput⟩ :=
          hreads.payloads hkeys kind
        · exact .inl ⟨by rw [hnone], hput⟩
        · exact .inl ⟨by rw [hnull], hput⟩
        · refine .inr ⟨?_, v, data, hv, hdata, hput⟩
          rw [hv]
          cases v with
          | null => exact absurd rfl hne
          | _ => rfl

variable {entries : List (String × Json)} {w : Widget}

/-- Foreign payloads of a decoded widget are those in the object that its type does not name. -/
theorem foreign_of_decode (h : decode (.obj entries) (.record .widget) = .ok w) :
    w.foreign = (Json.obj entries).payloadKinds.filter
      fun kind => kind.name ≠ (Json.obj entries).typeText := by
  obtain ⟨d, rfl, htype, hkinds⟩ := widget_of_decode h
  have any (kind : Kind) : d.payloads.any (·.kind == kind) = (Json.obj entries).holds kind := by
    obtain ⟨hholds, hkind⟩ | ⟨hholds, _, _, _, _, hkind⟩ := hkinds kind
    · rw [d.any_eq_ofKind, hkind, hholds]
      rfl
    · rw [d.any_eq_ofKind, hkind, hholds]
      rfl
  -- both lists go through the kinds in order, under conditions that agree
  rw [Json.payloadKinds, List.filter_filter, ← htype]
  refine List.filter_congr fun kind _ => ?_
  rw [any, decide_not]
  rfl

/-- The body of a decoded widget is what its type says and the object has. -/
theorem body_of_decode (h : decode (.obj entries) (.record .widget) = .ok w) :
    (Kind.ofName? (Json.obj entries).typeText = none ∧
      w.body = .unknown (Json.obj entries).typeText) ∨
    ∃ kind, Kind.ofName? (Json.obj entries).typeText = some kind ∧
      ((Json.obj entries).holds kind = false ∧ w.body = .missing kind ∨
        (Json.obj entries).holds kind = true ∧ ∃ content data,
          (Json.obj entries).get? kind.name = some content ∧
          Payload.decode kind content = .ok data ∧ w.body = .payload data) := by
  obtain ⟨d, rfl, htype, hkinds⟩ := widget_of_decode h
  rw [← htype]
  cases hname : Kind.ofName? d.type with
  | none => exact .inl ⟨rfl, by rw [WidgetDraft.widget, hname]⟩
  | some kind =>
      refine .inr ⟨kind, rfl, ?_⟩
      -- the body takes the first payload of the kind, and there is one at most
      have found := (d.head?_ofKind kind).symm
      obtain ⟨hholds, hkind⟩ | ⟨hholds, content, data, hcontent, hdata, hkind⟩ := hkinds kind
      · refine .inl ⟨hholds, ?_⟩
        simp only [WidgetDraft.widget, hname, found, hkind, List.head?_nil]
      · refine .inr ⟨hholds, content, data, hcontent, hdata, ?_⟩
        simp only [WidgetDraft.widget, hname, found, hkind, List.head?_cons]

end Wire

end EntryForm
