import Mathlib.Logic.Relation
import EntryForm.Proofs.Wire.Widgets

/-!
# Proofs — Wire — the grammar of documents

Decoding refuses a value for its types and for nothing else.

* `Admits n s v`: the shape has the value, or it is null and may be, if `n`.  Every key of a record
  may be absent and any other key present; nothing is asked of a text but that it is one, and of a
  count that it has 64 bits.
* `admits_iff_taken`: so a slot takes exactly what its shape admits.
* `Alters s v w`: one change of meaning turns the one value into the other, such as another text, a
  type that names no kind, an entry less, a payload more or an item below an item.
* `Form.decode_iff_admits`: what is admitted as a form is what is decoded as one, and still is
  after any changes of meaning.  `Form.decode_alters` says what it is then decoded to.
-/

namespace EntryForm.Wire

/-! ### The grammar -/

/-- The value has the shape, or is null where it may be.

A record is an object whose known keys, where they are present, have values of their shapes.  An
object that is read from a text can have a key twice; a known key must not be there twice.  Or a
record is an array of the values of its first keys, unless another one is written flat within it. -/
inductive Admits : Bool → Shape → Json → Prop where
  | null (s : Shape) : Admits true s .null
  | text {n : Bool} (t : String) : Admits n .text (.str t)
  | flag {n : Bool} (b : Bool) : Admits n .flag (.bool b)
  | count {n : Bool} {i : Int} (low : -Int.pow 2 63 ≤ i) (high : i < Int.pow 2 63) :
      Admits n .count (.int i)
  | whole {n : Bool} (i : Int) : Admits n .number (.int i)
  | float {n : Bool} (x : Float) : Admits n .number (.float x)
  | labels {n : Bool} {es : List (String × Json)} (texts : ∀ e ∈ es, ∃ t, e.2 = .str t) :
      Admits n .labels (.obj es)
  | free {n : Bool} (es : List (String × Json)) : Admits n .free (.obj es)
  | list {n : Bool} {s : Shape} {items : List Json} (each : ∀ v ∈ items, Admits false s v) :
      Admits n (.list s) (.arr items)
  | record {n : Bool} {r : Record} {es : List (String × Json)}
      (each : ∀ e ∈ es, ∀ s m, r.keys.lookup e.1 = some (s, m) → Admits m s e.2)
      (once : ∀ key, (r.keys.lookup key).isSome → (es.map Prod.fst).count key ≤ 1) :
      Admits n (.record r) (.obj es)
  | row {n : Bool} {r : Record} {items : List Json} (plain : r.inlined = none)
      (short : items.length ≤ r.keys.length)
      (each : ∀ v key s m, (v, key, s, m) ∈ items.zip r.keys → Admits m s v) :
      Admits n (.record r) (.arr items)

/-- A slot of the shape takes the value: it is passed over, or decoded. -/
def Taken (n : Bool) (s : Shape) (v : Json) : Prop :=
  n = true ∧ v = .null ∨ ∃ x, decode v s = .ok x

/-! ### Results that are reached -/

section Results

variable {ε α β : Type} {x : Except ε α}

/-- A result is reached exactly if it is before it is changed. -/
theorem exists_map_ok {f : α → β} : (∃ y, x.map f = .ok y) ↔ ∃ a, x = .ok a := by
  cases x with
  | error e => exact iff_of_false (by rintro ⟨_, ⟨⟩⟩) (by rintro ⟨_, ⟨⟩⟩)
  | ok a => exact iff_of_true ⟨f a, rfl⟩ ⟨a, rfl⟩

/-- A result is reached exactly if the first one is and then the second. -/
theorem exists_bind_ok {f : α → Except ε β} :
    (∃ y, (x >>= f) = .ok y) ↔ ∃ a, x = .ok a ∧ ∃ y, f a = .ok y := by
  cases x with
  | error e => exact iff_of_false (by rintro ⟨_, ⟨⟩⟩) (by rintro ⟨_, ⟨⟩, -⟩)
  | ok a =>
      constructor
      · rintro ⟨y, h⟩
        exact ⟨a, rfl, y, h⟩
      · rintro ⟨_, ⟨⟩, y, h⟩
        exact ⟨y, h⟩

end Results

/-! ### Shapes without records -/

section Shapes

variable {v : Json} {s : Shape}

/-- A flag can be decoded of a flag and nothing else. -/
theorem exists_decode_flag : (∃ b, decode v .flag = .ok b) ↔ ∃ b, v = .bool b := by
  cases v with
  | bool b => exact iff_of_true ⟨b, rfl⟩ ⟨b, rfl⟩
  | _ => exact iff_of_false (by rintro ⟨_, ⟨⟩⟩) (by rintro ⟨_, ⟨⟩⟩)

/-- A count can be decoded of integers that fit in 64 bits. -/
theorem exists_decode_count : (∃ c, decode v .count = .ok c) ↔
    ∃ i : Int, v = .int i ∧ -Int.pow 2 63 ≤ i ∧ i < Int.pow 2 63 := by
  cases v with
  | int i =>
      rw [decode, countOfInt]
      constructor
      · rintro ⟨c, h⟩
        split at h
        · next inside => exact ⟨i, rfl, inside⟩
        · cases h
      · rintro ⟨_, ⟨⟩, inside⟩
        exact ⟨_, if_pos inside⟩
  | _ => exact iff_of_false (by rintro ⟨_, ⟨⟩⟩) (by rintro ⟨_, ⟨⟩, -⟩)

/-- A number can be decoded of any number. -/
theorem exists_decode_number :
    (∃ x, decode v .number = .ok x) ↔ (∃ i, v = .int i) ∨ ∃ x, v = .float x := by
  cases v with
  | int i => exact iff_of_true ⟨_, rfl⟩ (.inl ⟨i, rfl⟩)
  | float x => exact iff_of_true ⟨x, rfl⟩ (.inr ⟨x, rfl⟩)
  | _ => exact iff_of_false (by rintro ⟨_, ⟨⟩⟩) (by rintro (⟨_, ⟨⟩⟩ | ⟨_, ⟨⟩⟩))

theorem exists_decodeLabels {es : List (String × Json)} :
    (∃ labels, decodeLabels es = .ok labels) ↔ ∀ e ∈ es, ∃ t, e.2 = .str t := by
  induction es with
  | nil => exact iff_of_true ⟨[], rfl⟩ (List.forall_mem_nil _)
  | cons e rest ih =>
      rw [List.forall_mem_cons, ← ih]
      rcases e with ⟨key, v⟩
      cases v with
      | str t =>
          rw [decodeLabels, and_iff_right ⟨t, rfl⟩]
          exact exists_map_ok
      | _ => exact iff_of_false (by rintro ⟨_, ⟨⟩⟩) (by rintro ⟨⟨_, ⟨⟩⟩, -⟩)

/-- Labels can be decoded of objects of texts. -/
theorem exists_decode_labels : (∃ labels, decode v .labels = .ok labels) ↔
    ∃ es, v = .obj es ∧ ∀ e ∈ es, ∃ t, e.2 = .str t := by
  cases v with
  | obj es =>
      refine exists_decodeLabels.trans ⟨fun h => ⟨es, rfl, h⟩, ?_⟩
      rintro ⟨_, ⟨⟩, h⟩
      exact h
  | _ => exact iff_of_false (by rintro ⟨_, ⟨⟩⟩) (by rintro ⟨_, ⟨⟩, -⟩)

theorem exists_decode_free : (∃ es, decode v .free = .ok es) ↔ ∃ es, v = .obj es := by
  cases v with
  | obj es => exact iff_of_true ⟨es, rfl⟩ ⟨es, rfl⟩
  | _ => exact iff_of_false (by rintro ⟨_, ⟨⟩⟩) (by rintro ⟨_, ⟨⟩⟩)

/-- A list can be decoded if each item can. -/
theorem exists_decodeList {items : List Json} :
    (∃ xs, decodeList items s = .ok xs) ↔ ∀ w ∈ items, ∃ x, decode w s = .ok x := by
  induction items with
  | nil => exact iff_of_true ⟨[], rfl⟩ (List.forall_mem_nil _)
  | cons w rest ih =>
      rw [List.forall_mem_cons, ← ih, decodeList]
      simp only [exists_bind_ok]
      constructor
      · rintro ⟨x, hx, xs, hxs, -⟩
        exact ⟨⟨x, hx⟩, xs, hxs⟩
      · rintro ⟨⟨x, hx⟩, xs, hxs⟩
        exact ⟨x, hx, xs, hxs, _, rfl⟩

/-- A list can be decoded of arrays whose items can. -/
theorem exists_decode_list : (∃ xs, decode v (.list s) = .ok xs) ↔
    ∃ items, v = .arr items ∧ ∀ w ∈ items, ∃ x, decode w s = .ok x := by
  cases v with
  | arr items =>
      refine exists_decodeList.trans ⟨fun h => ⟨items, rfl, h⟩, ?_⟩
      rintro ⟨_, ⟨⟩, h⟩
      exact h
  | _ => exact iff_of_false (by rintro ⟨_, ⟨⟩⟩) (by rintro ⟨_, ⟨⟩, -⟩)

end Shapes

/-! ### Slots -/

section Slots

variable {r : Record} {d : r.Draft} {key : String} {v : Json} {es : List (String × Json)}

/-- A slot takes a value that it passes over or that can be decoded. -/
theorem taken_slot_iff {σ : Type} {slot : Slot σ} : Taken slot.nullable slot.shape v ↔
    slot.skips v = true ∨ ∃ x, decode v slot.shape = .ok x := by
  rw [Taken, skips_iff, and_comm]

/-- Whether an entry is read does not depend on what has been read before. -/
theorem exists_readEntry : (∃ d', readEntry r d (key, v) = .ok d') ↔
    ∀ slot, Slot.named? key r.slots = some slot → Taken slot.nullable slot.shape v := by
  cases hs : Slot.named? key r.slots with
  | none => exact iff_of_true ⟨d, readEntry_unknown hs⟩ (by rintro _ ⟨⟩)
  | some slot =>
      simp only [Option.some.injEq, forall_eq', taken_slot_iff]
      cases hv : slot.skips v with
      | true => exact iff_of_true ⟨d, readEntry_skipped hs hv⟩ (.inl rfl)
      | false =>
          constructor
          · rintro ⟨d', h⟩
            obtain ⟨unknown, -⟩ | ⟨s, named, skipped, -⟩ | ⟨s, named, -, x, hx, -⟩ :=
              readEntry_eq_ok h
            · rw [hs] at unknown
              cases unknown
            · rw [hs] at named
              obtain rfl := Option.some.inj named
              rw [hv] at skipped
              cases skipped
            · rw [hs] at named
              obtain rfl := Option.some.inj named
              exact .inr ⟨x, hx⟩
          · rintro (⟨⟨⟩⟩ | ⟨x, hx⟩)
            exact ⟨_, readEntry_taken hs hv hx⟩

/-- Entries can be read if each slot takes the values under its key. -/
theorem exists_reads : (∃ d', Reads r es d d') ↔
    ∀ e ∈ es, ∀ slot, Slot.named? e.1 r.slots = some slot →
      Taken slot.nullable slot.shape e.2 := by
  induction es generalizing d with
  | nil => exact iff_of_true ⟨d, reads_nil.mpr rfl⟩ (List.forall_mem_nil _)
  | cons e rest ih =>
      rw [List.forall_mem_cons]
      constructor
      · rintro ⟨d', h⟩
        obtain ⟨m, first, behind⟩ := reads_cons.mp h
        exact ⟨exists_readEntry.mp ⟨m, first⟩, ih.mp ⟨d', behind⟩⟩
      · rintro ⟨first, behind⟩
        obtain ⟨m, hm⟩ := exists_readEntry.mpr first
        obtain ⟨d', hd'⟩ := (ih (d := m)).mpr behind
        exact ⟨d', reads_cons.mpr ⟨m, hm, hd'⟩⟩

/-- No known key comes twice exactly if each is counted once at most. -/
theorem nodup_knownKeys_iff : (knownKeys r es).Nodup ↔
    ∀ key, (Slot.named? key r.slots).isSome → (es.map Prod.fst).count key ≤ 1 := by
  rw [List.nodup_iff_count]
  refine forall_congr' fun key => ?_
  by_cases known : (Slot.named? key r.slots).isSome
  · rw [knownKeys, List.count_filter (p := fun key => (Slot.named? key r.slots).isSome) known]
    exact (imp_iff_right known).symm
  · refine iff_of_true ?_ fun h => absurd h known
    have unknown : key ∉ knownKeys r es := fun h => known (List.mem_filter.mp h).2
    rw [List.count_eq_zero_of_not_mem unknown]
    exact Nat.zero_le 1

/-- Entries can be decoded if the slots take them and no known key comes twice. -/
theorem exists_decodeEntries : (∃ d', decodeEntries es r [] d = .ok d') ↔
    (∀ e ∈ es, ∀ slot, Slot.named? e.1 r.slots = some slot →
      Taken slot.nullable slot.shape e.2) ∧
    ∀ key, (Slot.named? key r.slots).isSome → (es.map Prod.fst).count key ≤ 1 := by
  rw [← nodup_knownKeys_iff, ← exists_reads (d := d)]
  constructor
  · rintro ⟨d', h⟩
    obtain ⟨reads, new⟩ := decodeEntries_eq_ok.mp h
    exact ⟨⟨d', reads⟩, new.1⟩
  · rintro ⟨⟨d', reads⟩, nodup⟩
    exact ⟨d', decodeEntries_eq_ok.mpr ⟨reads, nodup, fun _ _ => List.not_mem_nil⟩⟩

/-- Items can be decoded if there are not more than slots and each slot takes its item. -/
theorem exists_decodeItems {items : List Json} {length : Nat} {slots : List (Slot r.Draft)} :
    (∃ d', decodeItems items length r slots d = .ok d') ↔
      items.length ≤ slots.length ∧
        ∀ e ∈ items.zip slots, Taken e.2.nullable e.2.shape e.1 := by
  induction items generalizing slots d with
  | nil => exact iff_of_true ⟨d, rfl⟩ ⟨Nat.zero_le _, List.forall_mem_nil _⟩
  | cons v rest ih =>
      cases slots with
      | nil => exact iff_of_false (by rintro ⟨_, ⟨⟩⟩) fun h => absurd h.1 (by simp)
      | cons slot slots =>
          rw [List.zip_cons_cons, List.forall_mem_cons, and_left_comm, taken_slot_iff,
            List.length_cons, List.length_cons, Nat.add_le_add_iff_right, decodeItems]
          split
          · next hv => exact ih.trans (and_iff_right (.inl hv)).symm
          · next hv =>
            rw [or_iff_right hv]
            simp only [exists_bind_ok, ih, exists_and_right]

end Slots

/-! ### Records -/

section Records

variable {r : Record} {key : String} {P : Shape → Bool → Prop} {es : List (String × Json)}

theorem lookup_slots {σ : Type} (key : String) (slots : List (Slot σ)) :
    (slots.map fun s => (s.key, s.shape, s.nullable)).lookup key =
      (Slot.named? key slots).map fun s => (s.shape, s.nullable) := by
  induction slots with
  | nil => rfl
  | cons slot rest ih =>
      rw [List.map_cons, Slot.named?, List.find?_cons]
      by_cases h : slot.key = key
      · rw [h, List.lookup_cons_self, beq_self_eq_true]
        rfl
      · rw [lookup_cons_of_ne (Ne.symm h), ih, beq_false_of_ne h]
        rfl

theorem lookup_keys_plain (plain : r.inlined = none) :
    r.keys.lookup key = (Slot.named? key r.slots).map fun s => (s.shape, s.nullable) := by
  rw [Record.keys, plain, List.append_nil, lookup_slots]

/-- A slot of a record has a key of it, with what else the record may hold flat. -/
theorem lookup_keys_own {slot : Slot r.Draft} (named : Slot.named? key r.slots = some slot) :
    r.keys.lookup key = some (slot.shape, slot.nullable) := by
  rw [Record.keys, List.lookup_append, lookup_slots, named]
  rfl

/-- The keys of a record that another is written flat into are those of both. -/
theorem lookup_keys_inlined {flat : Inlined r.Draft} (hr : r.inlined = some flat) :
    r.keys.lookup key =
      ((Slot.named? key r.slots).map fun s => (s.shape, s.nullable)).or
        ((Slot.named? key flat.record.slots).map fun s => (s.shape, s.nullable)) := by
  rw [Record.keys, hr, List.lookup_append, lookup_slots, lookup_slots]

/-- No key is both one of a record and one of the record that is written flat within it. -/
theorem named?_eq_none_or {flat : Inlined r.Draft} (hr : r.inlined = some flat) (key : String) :
    Slot.named? key r.slots = none ∨ Slot.named? key flat.record.slots = none := by
  cases own : Slot.named? key r.slots with
  | none => exact .inl rfl
  | some slot =>
      cases inner : Slot.named? key flat.record.slots with
      | none => exact .inr rfl
      | some other =>
          have nodup := nodup_recordKeys r
          rw [Record.keys, hr, List.map_append, List.map_map, List.map_map,
            List.nodup_append] at nodup
          have first : key ∈ r.slots.map Slot.key :=
            List.mem_map.mpr ⟨slot, named?_eq_some own⟩
          have second : key ∈ flat.record.slots.map Slot.key :=
            List.mem_map.mpr ⟨other, named?_eq_some inner⟩
          exact absurd rfl (nodup.2.2 key first key second)

theorem forall_map_slot {σ : Type} {o : Option (Slot σ)} :
    (∀ s m, o.map (fun t => (t.shape, t.nullable)) = some (s, m) → P s m) ↔
      ∀ slot, o = some slot → P slot.shape slot.nullable := by
  cases o with
  | none => exact iff_of_true (by rintro _ _ ⟨⟩) (by rintro _ ⟨⟩)
  | some slot =>
      constructor
      · rintro h _ ⟨⟩
        exact h _ _ rfl
      · rintro h _ _ ⟨⟩
        exact h _ rfl

/-- What is asked of the entries of an object is asked of those of the record and of those of the
record that is written flat within it. -/
theorem forall_known_iff {flat : Inlined r.Draft} (hr : r.inlined = some flat) :
    (∀ s m, r.keys.lookup key = some (s, m) → P s m) ↔
      (∀ slot, Slot.named? key r.slots = some slot → P slot.shape slot.nullable) ∧
      ∀ slot, Slot.named? key flat.record.slots = some slot → P slot.shape slot.nullable := by
  rw [lookup_keys_inlined hr, ← forall_map_slot, ← forall_map_slot]
  rcases named?_eq_none_or hr key with h | h
  · rw [h]
    exact (and_iff_right (by rintro _ _ ⟨⟩)).symm
  · rw [h, Option.map_none, Option.or_none]
    exact (and_iff_left (by rintro _ _ ⟨⟩)).symm

/-- An object is decoded as a record if its entries are, and those of the record within it. -/
theorem exists_decode_obj_iff : (∃ x, decode (.obj es) (.record r) = .ok x) ↔
    (∃ d, decodeEntries es r [] r.blank = .ok d) ∧ ∀ flat, r.inlined = some flat →
      ∃ d, decodeEntries es flat.record [] flat.record.blank = .ok d := by
  rw [decode, exists_bind_ok]
  cases r.inlined with
  | none =>
      rw [and_iff_left (by rintro _ ⟨⟩)]
      exact exists_congr fun d => and_iff_left ⟨_, rfl⟩
  | some flat =>
      simp only [exists_bind_ok, Option.some.injEq, forall_eq']
      constructor
      · rintro ⟨own, hown, inner, hinner, -⟩
        exact ⟨⟨own, hown⟩, inner, hinner⟩
      · rintro ⟨⟨own, hown⟩, inner, hinner⟩
        exact ⟨own, hown, inner, hinner, _, rfl⟩

/-- A record can be decoded of an object exactly if its keys take what is under them, once each. -/
theorem exists_decode_obj : (∃ x, decode (.obj es) (.record r) = .ok x) ↔
    (∀ e ∈ es, ∀ s m, r.keys.lookup e.1 = some (s, m) → Taken m s e.2) ∧
      ∀ key, (r.keys.lookup key).isSome → (es.map Prod.fst).count key ≤ 1 := by
  rw [exists_decode_obj_iff, exists_decodeEntries]
  cases hr : r.inlined with
  | none =>
      rw [and_iff_left (by rintro _ ⟨⟩)]
      simp only [lookup_keys_plain hr, forall_map_slot, Option.isSome_map]
  | some flat =>
      simp only [Option.some.injEq, forall_eq', exists_decodeEntries, forall_known_iff hr]
      simp only [lookup_keys_inlined hr, Option.isSome_or, Option.isSome_map, Bool.or_eq_true,
        or_imp, forall_and]
      exact and_and_and_comm

/-- A record can be decoded of an array exactly if its keys take the items in turn. -/
theorem exists_decode_row {items : List Json} : (∃ x, decode (.arr items) (.record r) = .ok x) ↔
    r.inlined = none ∧ items.length ≤ r.keys.length ∧
      ∀ v key s m, (v, key, s, m) ∈ items.zip r.keys → Taken m s v := by
  rw [decode]
  cases hr : r.inlined with
  | some flat => exact iff_of_false (by rintro ⟨_, ⟨⟩⟩) (by rintro ⟨⟨⟩, -⟩)
  | none =>
      have keys : r.keys = r.slots.map fun s => (s.key, s.shape, s.nullable) := by
        rw [Record.keys, hr, List.append_nil]
      rw [and_iff_right rfl, keys, List.length_map, List.zip_map_right]
      refine exists_map_ok.trans (exists_decodeItems.trans (and_congr_right fun _ => ?_))
      constructor
      · intro each v key s m hm
        obtain ⟨e, he, ⟨⟩⟩ := List.mem_map.mp hm
        exact each e he
      · intro each e he
        exact each e.1 _ _ _ (List.mem_map.mpr ⟨e, he, rfl⟩)

/-- A record can be decoded of objects and arrays only. -/
theorem exists_decode_record {v : Json} : (∃ x, decode v (.record r) = .ok x) ↔
    (∃ es, v = .obj es ∧ ∃ x, decode (.obj es) (.record r) = .ok x) ∨
      ∃ items, v = .arr items ∧ ∃ x, decode (.arr items) (.record r) = .ok x := by
  constructor
  · rintro ⟨x, h⟩
    cases v with
    | obj es => exact .inl ⟨es, rfl, x, h⟩
    | arr items => exact .inr ⟨items, rfl, x, h⟩
    | _ => cases h
  · rintro (⟨_, rfl, h⟩ | ⟨_, rfl, h⟩)
    · exact h
    · exact h

end Records

/-! ### All values -/

/-- What the grammar admits is taken. -/
theorem taken_of_admits {n : Bool} {s : Shape} {v : Json} (h : Admits n s v) : Taken n s v := by
  induction h with
  | null s => exact .inl ⟨rfl, rfl⟩
  | text t => exact .inr ⟨t, rfl⟩
  | flag b => exact .inr ⟨b, rfl⟩
  | count low high => exact .inr (exists_decode_count.mpr ⟨_, rfl, low, high⟩)
  | whole i => exact .inr ⟨_, rfl⟩
  | float x => exact .inr ⟨x, rfl⟩
  | labels texts => exact .inr (exists_decode_labels.mpr ⟨_, rfl, texts⟩)
  | free es => exact .inr ⟨es, rfl⟩
  | list _ ih =>
      refine .inr (exists_decode_list.mpr ⟨_, rfl, fun w hw => ?_⟩)
      exact (ih w hw).resolve_left (by rintro ⟨⟨⟩, -⟩)
  | record _ once ih => exact .inr (exists_decode_obj.mpr ⟨ih, once⟩)
  | row plain short _ ih => exact .inr (exists_decode_row.mpr ⟨plain, short, ih⟩)

/-- What is taken is admitted by the grammar. -/
theorem admits_of_taken {n : Bool} {s : Shape} {v : Json} (h : Taken n s v) : Admits n s v := by
  obtain ⟨rfl, rfl⟩ | decoded := h
  · exact .null s
  cases s with
  | text =>
      obtain ⟨t, h⟩ := decoded
      rw [decode_text_eq_ok.mp h]
      exact .text t
  | flag =>
      obtain ⟨b, rfl⟩ := exists_decode_flag.mp decoded
      exact .flag b
  | count =>
      obtain ⟨i, rfl, low, high⟩ := exists_decode_count.mp decoded
      exact .count low high
  | number =>
      obtain ⟨i, rfl⟩ | ⟨x, rfl⟩ := exists_decode_number.mp decoded
      · exact .whole i
      · exact .float x
  | labels =>
      obtain ⟨es, rfl, texts⟩ := exists_decode_labels.mp decoded
      exact .labels texts
  | free =>
      obtain ⟨es, rfl⟩ := exists_decode_free.mp decoded
      exact .free es
  | list s =>
      obtain ⟨items, hv, each⟩ := exists_decode_list.mp decoded
      rw [hv]
      exact .list fun w hw =>
        have : sizeOf w < sizeOf v := hv ▸ sizeOf_element hw
        admits_of_taken (.inr (each w hw))
  | record r =>
      obtain ⟨es, hv, fit⟩ | ⟨items, hv, fit⟩ := exists_decode_record.mp decoded
      · obtain ⟨each, once⟩ := exists_decode_obj.mp fit
        rw [hv]
        exact .record (fun e he s m known =>
          have : sizeOf e.2 < sizeOf v := hv ▸ sizeOf_member he
          admits_of_taken (each e he s m known)) once
      · obtain ⟨plain, short, each⟩ := exists_decode_row.mp fit
        rw [hv]
        exact .row plain short fun w key s m hw =>
          have : sizeOf w < sizeOf v := hv ▸ sizeOf_element (List.of_mem_zip hw).1
          admits_of_taken (each w key s m hw)
termination_by sizeOf v

theorem admits_iff_taken {n : Bool} {s : Shape} {v : Json} : Admits n s v ↔ Taken n s v :=
  ⟨taken_of_admits, admits_of_taken⟩

/-- What has a shape is what is decoded. -/
theorem exists_decode_iff {s : Shape} {v : Json} :
    (∃ x, decode v s = .ok x) ↔ Admits false s v := by
  rw [admits_iff_taken]
  exact (or_iff_right (by rintro ⟨⟨⟩, -⟩)).symm

/-! ### Changes of meaning -/

/-- One change that leaves every value one of its shape: another text, as one that no setting
allows or a type that names no kind; another count; a list without its elements; an entry less, as
a type, a payload or a list; an entry more under a key that was absent, as a payload of a further
kind or items below an item; and such a change somewhere inside. -/
inductive Alters : Shape → Json → Json → Prop where
  | text (t u : String) : Alters .text (.str t) (.str u)
  | count (i : Int) {j : Int} (low : -Int.pow 2 63 ≤ j) (high : j < Int.pow 2 63) :
      Alters .count (.int i) (.int j)
  | emptied (s : Shape) (items : List Json) : Alters (.list s) (.arr items) (.arr [])
  | element {s : Shape} {items : List Json} (i : Nat) {v w : Json} (found : items[i]? = some v)
      (inside : Alters s v w) : Alters (.list s) (.arr items) (.arr (items.set i w))
  | dropped {r : Record} (before after : List (String × Json)) (e : String × Json) :
      Alters (.record r) (.obj (before ++ e :: after)) (.obj (before ++ after))
  | added {r : Record} {es : List (String × Json)} {key : String} {s : Shape} {m : Bool}
      {v : Json} (known : r.keys.lookup key = some (s, m)) (absent : key ∉ es.map Prod.fst)
      (fit : Admits m s v) : Alters (.record r) (.obj es) (.obj (es ++ [(key, v)]))
  | entry {r : Record} (before after : List (String × Json)) {key : String} {s : Shape} {m : Bool}
      {v w : Json} (known : r.keys.lookup key = some (s, m)) (inside : Alters s v w) :
      Alters (.record r) (.obj (before ++ (key, v) :: after)) (.obj (before ++ (key, w) :: after))
  | item {r : Record} {items : List Json} (i : Nat) {key : String} {s : Shape} {m : Bool}
      {v w : Json} (found : items[i]? = some v) (known : r.keys[i]? = some (key, s, m))
      (inside : Alters s v w) : Alters (.record r) (.arr items) (.arr (items.set i w))

section Changes

variable {n m : Bool} {r : Record} {s : Shape} {v w : Json} {es before after : List (String × Json)}
  {items : List Json} {key : String} {i : Nat}

/-- An element may be exchanged for one that is admitted as well. -/
theorem Admits.element (h : Admits n (.list s) (.arr items)) (found : items[i]? = some v)
    (inside : Admits false s v → Admits false s w) : Admits n (.list s) (.arr (items.set i w)) := by
  cases h with
  | list each =>
      refine .list fun u hu => ?_
      obtain hu | rfl := List.mem_or_eq_of_mem_set hu
      · exact each u hu
      · exact inside (each v (List.mem_of_getElem? found))

/-- An entry may be left out. -/
theorem Admits.dropped {e : String × Json}
    (h : Admits n (.record r) (.obj (before ++ e :: after))) :
    Admits n (.record r) (.obj (before ++ after)) := by
  cases h with
  | record each once =>
      have fewer : (before ++ after).Sublist (before ++ e :: after) :=
        (List.Sublist.refl before).append (List.sublist_cons_self e after)
      refine .record (fun e he => each e (fewer.subset he)) fun key known => ?_
      exact Nat.le_trans ((fewer.map Prod.fst).count_le key) (once key known)

/-- An entry may be added under a key that has none yet. -/
theorem Admits.added (h : Admits n (.record r) (.obj es))
    (known : r.keys.lookup key = some (s, m)) (absent : key ∉ es.map Prod.fst)
    (fit : Admits m s v) : Admits n (.record r) (.obj (es ++ [(key, v)])) := by
  cases h with
  | record each once =>
      refine .record (fun e he t k hk => ?_) fun other hother => ?_
      · obtain he | he := List.mem_append.mp he
        · exact each e he t k hk
        · obtain rfl := List.mem_singleton.mp he
          obtain ⟨⟩ := known.symm.trans hk
          exact fit
      · rw [List.map_append, List.count_append]
        change _ + [key].count other ≤ 1
        by_cases same : other = key
        · have before := List.count_eq_zero_of_not_mem absent
          have own : [key].count key = 1 := List.count_singleton_self
          rw [same]
          omega
        · rw [List.count_eq_zero_of_not_mem fun hm => same (List.mem_singleton.mp hm)]
          exact once other hother

/-- The value of an entry may be exchanged for one that is admitted as well. -/
theorem Admits.entry (h : Admits n (.record r) (.obj (before ++ (key, v) :: after)))
    (known : r.keys.lookup key = some (s, m)) (inside : Admits m s v → Admits m s w) :
    Admits n (.record r) (.obj (before ++ (key, w) :: after)) := by
  cases h with
  | record each once =>
      have keys : (before ++ (key, w) :: after).map Prod.fst =
          (before ++ (key, v) :: after).map Prod.fst := by
        simp only [List.map_append, List.map_cons]
      refine .record (fun e he t k hk => ?_) (keys ▸ once)
      obtain he | he := List.mem_append.mp he
      · exact each e (List.mem_append_left _ he) t k hk
      · obtain rfl | he := List.mem_cons.mp he
        · obtain ⟨⟩ := known.symm.trans hk
          exact inside (each (key, v) (List.mem_append_right _ List.mem_cons_self) s m known)
        · exact each e (List.mem_append_right _ (List.mem_cons_of_mem _ he)) t k hk

/-- An item of an array may be exchanged for one that is admitted as well. -/
theorem Admits.item (h : Admits n (.record r) (.arr items)) (found : items[i]? = some v)
    (known : r.keys[i]? = some (key, s, m)) (inside : Admits m s v → Admits m s w) :
    Admits n (.record r) (.arr (items.set i w)) := by
  cases h with
  | row plain short each =>
      have placed {us : List Json} {u : Json} {e : String × Shape × Bool} :
          (u, e) ∈ us.zip r.keys ↔ ∃ j : Nat, us[j]? = some u ∧ r.keys[j]? = some e := by
        simp only [List.mem_iff_getElem?, List.getElem?_zip_eq_some]
      refine .row plain (by rwa [List.length_set]) fun u other t k hu => ?_
      obtain ⟨j, hj, hkey⟩ := placed.mp hu
      by_cases same : i = j
      · subst same
        obtain ⟨⟩ := known.symm.trans hkey
        rw [List.getElem?_set_self', found] at hj
        obtain rfl := Option.some.inj hj
        exact inside (each v key s m (placed.mpr ⟨i, found, known⟩))
      · rw [List.getElem?_set_ne same] at hj
        exact each u other t k (placed.mpr ⟨j, hj, hkey⟩)

/-- A change leaves a value that has the shape one that has it. -/
theorem Admits.alters (h : Admits n s v) (change : Alters s v w) : Admits n s w := by
  induction change generalizing n with
  | text t u => exact .text u
  | count i low high => exact .count low high
  | emptied s items => exact .list (List.forall_mem_nil _)
  | element i found _ ih => exact h.element found ih
  | dropped before after e => exact h.dropped
  | added known absent fit => exact h.added known absent fit
  | entry before after known _ ih => exact h.entry known ih
  | item i found known _ ih => exact h.item found known ih

/-- So do any number of changes. -/
theorem Admits.alters_all (h : Admits n s v) (changes : Relation.ReflTransGen (Alters s) v w) :
    Admits n s w := by
  induction changes with
  | refl => exact h
  | tail _ change ih => exact ih.alters change

end Changes

/-- Where no key repeats, only the values under known keys matter. -/
theorem admits_record_iff {n : Bool} {r : Record} {es : List (String × Json)}
    (nodup : (es.map Prod.fst).Nodup) : Admits n (.record r) (.obj es) ↔
      ∀ e ∈ es, ∀ s m, r.keys.lookup e.1 = some (s, m) → Admits m s e.2 := by
  constructor
  · intro h
    cases h with
    | record each _ => exact each
  · intro each
    exact .record each fun key _ => List.nodup_iff_count.mp nodup key

/-- That many items below one another, and at the bottom a given one. -/
def itemsAbove : Nat → Json → Json
  | 0, v => v
  | depth + 1, v => .obj [("children", .arr [itemsAbove depth v])]

/-- An item that is admitted is so below any number of others. -/
theorem admits_itemsAbove {v : Json} (h : Admits false (.record .nestedItem) v) (depth : Nat) :
    Admits false (.record .nestedItem) (itemsAbove depth v) := by
  induction depth with
  | zero => exact h
  | succ depth ih =>
      refine (admits_record_iff (by simp)).mpr ?_
      rw [List.forall_mem_singleton]
      rintro s m ⟨⟩
      exact .list (List.forall_mem_singleton.mpr ih)

end EntryForm.Wire

namespace EntryForm
open Wire

/-- A value is decoded as a form exactly if it has the shape of one.  An object has the shape of a
record if the values under its known keys have theirs, provided that no key repeats.  No change of
meaning keeps a value from being decoded, and neither does the depth of a checklist. -/
theorem Form.decode_iff_admits :
    (∀ v, (∃ f : Form, decode v (.record .form) = .ok f) ↔ Admits false (.record .form) v) ∧
    (∀ n r es, (es.map Prod.fst).Nodup → (Admits n (.record r) (.obj es) ↔
      ∀ e ∈ es, ∀ s m, r.keys.lookup e.1 = some (s, m) → Admits m s e.2)) ∧
    (∀ v w, Relation.ReflTransGen (Alters (.record .form)) v w →
      (∃ f : Form, decode v (.record .form) = .ok f) →
      ∃ g : Form, decode w (.record .form) = .ok g) ∧
    ∀ v depth, (∃ item : NestedItem, decode v (.record .nestedItem) = .ok item) →
      ∃ item : NestedItem, decode (itemsAbove depth v) (.record .nestedItem) = .ok item := by
  refine ⟨fun v => exists_decode_iff (s := .record .form), fun n r es => admits_record_iff, ?_, ?_⟩
  · intro v w changes decoded
    have before := (exists_decode_iff (s := .record .form)).mp decoded
    exact (exists_decode_iff (s := .record .form)).mpr (before.alters_all changes)
  · intro v depth decoded
    have item := (exists_decode_iff (s := .record .nestedItem)).mp decoded
    exact (exists_decode_iff (s := .record .nestedItem)).mpr (admits_itemsAbove item depth)

/-- A form is decoded although the type of its widget names no kind, and its payload is of one. -/
theorem Form.decode_iff_admits_gauge : ∃ f : Form, decode
    (.obj [("pages", .arr [.obj [("sections", .arr [.obj [("widgets", .arr [.obj
      [("type", .str "gauge"), ("field", .obj [])]])]])]])]) (.record .form) = .ok f := by
  -- a widget without a payload is given one, and then another type
  have payload : Alters (.record .widget) (.obj [("type", .str "field")])
      (.obj [("type", .str "field"), ("field", .obj [])]) :=
    .added rfl (by decide) (.record (List.forall_mem_nil _) fun _ _ => Nat.zero_le 1)
  have type : Alters (.record .widget) (.obj [("type", .str "field"), ("field", .obj [])])
      (.obj [("type", .str "gauge"), ("field", .obj [])]) :=
    .entry [] _ rfl (.text "field" "gauge")
  have inside {v w : Json} (h : Alters (.record .widget) v w) : Alters (.record .form)
      (.obj [("pages", .arr [.obj [("sections", .arr [.obj [("widgets", .arr [v])]])]])])
      (.obj [("pages", .arr [.obj [("sections", .arr [.obj [("widgets", .arr [w])]])]])]) :=
    .entry [] [] rfl (.element 0 rfl (.entry [] [] rfl (.element 0 rfl (.entry [] [] rfl
      (.element 0 rfl h)))))
  refine decode_iff_admits.2.2.1 _ _ (.tail (.single (inside payload)) (inside type)) ?_
  exact ⟨_, rfl⟩

end EntryForm
