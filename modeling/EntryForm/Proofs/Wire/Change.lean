import Mathlib.Data.List.Pairwise
import EntryForm.Rules.Form
import EntryForm.Proofs.Wire.Grammar
import EntryForm.Proofs.Wire.RoundTrip

/-!
# Proofs — Wire — what a change does

A change of meaning in a document changes what is decoded of it at that place, and nothing else.

* `Record.allSlots`: the slots of a record with those of the record that is written flat within it.
* `Record.Alike d d'`: the drafts become the same record.  Up to that, slots of different keys can
  be put in either order (`commute_of_named?`).
* `Fills r e d d'`, `FillsAll r es d d'`: what one entry of an object does to a draft, and what the
  entries do one after another.
* `fillsAll_of_decode`: an object is decoded to what its entries make of the defaults.
* `decode_perm`: the order of the entries does not matter, so any of them can be taken for the last
  (`exists_of_decode_entry`).
* `Follows s v w x y`: the change from the value `v` to `w` is that from `x` to `y`.
* `decode_alters`, `Form.decode_alters`: what is decoded follows every change of meaning.
* `Widget.decode_retyped`: so a type that names no kind is kept, and reported.
-/

namespace EntryForm.Wire

/-! ### Drafts that become the same -/

/-- The drafts have the same texts, and the same payloads of each kind. -/
structure WidgetDraft.Alike (d d' : WidgetDraft) : Prop where
  id : d.id = d'.id
  type : d.type = d'.type
  title : d.title = d'.title
  help : d.help = d'.help
  visibleIf : d.visibleIf = d'.visibleIf
  payloads : ∀ kind, d.ofKind kind = d'.ofKind kind

/-- The drafts become the same record: they are the same, but for the order in which a widget has
met payloads of different kinds. -/
def Record.Alike : (r : Record) → r.Draft → r.Draft → Prop
  | widget, d, d' => WidgetDraft.Alike d d'
  | _, d, d' => d = d'

theorem WidgetDraft.Alike.widget_eq {d d' : WidgetDraft} (h : d.Alike d') :
    d.widget = d'.widget := by
  have find (kind : Kind) :
      d.payloads.find? (·.kind == kind) = d'.payloads.find? (·.kind == kind) := by
    rw [← head?_ofKind, ← head?_ofKind, h.payloads]
  have any (kind : Kind) : d.payloads.any (·.kind == kind) = d'.payloads.any (·.kind == kind) := by
    rw [any_eq_ofKind, any_eq_ofKind, h.payloads]
  simp only [widget, h.id, h.type, h.title, h.help, h.visibleIf, find, any]

section Alike

variable {r : Record} {d d' d'' : r.Draft}

theorem Record.Alike.refl (d : r.Draft) : r.Alike d d := by
  cases r with
  | widget => exact ⟨rfl, rfl, rfl, rfl, rfl, fun _ => rfl⟩
  | _ => exact rfl

theorem Record.Alike.symm (h : r.Alike d d') : r.Alike d' d := by
  cases r with
  | widget =>
      exact ⟨h.id.symm, h.type.symm, h.title.symm, h.help.symm, h.visibleIf.symm,
        fun kind => (h.payloads kind).symm⟩
  | _ => exact Eq.symm h

theorem Record.Alike.trans (h : r.Alike d d') (h' : r.Alike d' d'') : r.Alike d d'' := by
  cases r with
  | widget =>
      exact ⟨h.id.trans h'.id, h.type.trans h'.type, h.title.trans h'.title, h.help.trans h'.help,
        h.visibleIf.trans h'.visibleIf, fun kind => (h.payloads kind).trans (h'.payloads kind)⟩
  | _ => exact Eq.trans h h'

/-- Drafts that are alike become the same record. -/
theorem Record.Alike.finish_eq (h : r.Alike d d') : r.finish d = r.finish d' := by
  cases r with
  | widget => exact h.widget_eq
  | _ => exact h

end Alike

/-! ### All slots of a record -/

/-- The slot of a field, as one of a field of a group. -/
def Slot.within (s : Slot Field) : Slot GroupField :=
  ⟨s.key, s.shape, s.nullable, fun x d => { d with field := s.put x d.field }⟩

/-- The slots of a record with those of the record that is written flat within it. -/
def Record.allSlots : (r : Record) → List (Slot r.Draft)
  | groupField => Record.groupField.slots ++ Record.field.slots.map Slot.within
  | r => r.slots

theorem Record.allSlots_of_plain {r : Record} (plain : r.inlined = none) :
    r.allSlots = r.slots := by
  cases r with
  | groupField => cases plain
  | _ => rfl

/-- A widget has five texts, and a payload of each kind. -/
theorem Record.widget_allSlots : Record.widget.allSlots = Record.widget.slots.take 5 ++
    Kind.all.map fun kind => payloadSlot kind kind.record kind.wrap := rfl

/-- The slots can be put in either order. -/
def Commute (r : Record) (s t : Slot r.Draft) : Prop :=
  ∀ x y d, r.Alike (s.put x (t.put y d)) (t.put y (s.put x d))

/-- Two payloads of different kinds in either order give the same payloads of each kind. -/
theorem filter_kind_swap {p q : Payload} (h : p.kind ≠ q.kind) (kind : Kind) (ps : List Payload) :
    (ps ++ [q] ++ [p]).filter (·.kind == kind) = (ps ++ [p] ++ [q]).filter (·.kind == kind) := by
  simp only [List.filter_append, List.append_assoc]
  by_cases hp : p.kind = kind
  · have hq : q.kind ≠ kind := fun hq => h (hp.trans hq.symm)
    simp [hp, hq]
  · simp [hp]

/-- Payloads of different kinds may be put in either order. -/
theorem commute_payloads {kind other : Kind} (h : kind ≠ other) :
    Commute .widget (payloadSlot kind kind.record kind.wrap)
      (payloadSlot other other.record other.wrap) := by
  intro x y d
  have kinds : (kind.wrap x).kind ≠ (other.wrap y).kind := fun same =>
    h ((kind.kind_wrap x).symm.trans (same.trans (other.kind_wrap y)))
  exact ⟨rfl, rfl, rfl, rfl, rfl, fun k => filter_kind_swap kinds k d.payloads⟩

/-- Of any two slots of a record, one sets nothing that the other does. -/
theorem pairwise_commute (r : Record) : r.allSlots.Pairwise (Commute r) := by
  cases r with
  | widget =>
      have kinds : Kind.all.Pairwise (· ≠ ·) := by decide
      rw [Record.widget_allSlots, List.pairwise_append]
      refine ⟨?_, List.pairwise_map.mpr (kinds.imp commute_payloads), ?_⟩
      · repeat' first
          | exact List.Pairwise.nil
          | exact List.forall_mem_nil _
          | refine List.Pairwise.cons ?_ ?_
          | refine List.forall_mem_cons.mpr
              ⟨fun _ _ _ => ⟨rfl, rfl, rfl, rfl, rfl, fun _ => rfl⟩, ?_⟩
      · intro s hs t ht
        obtain ⟨kind, -, rfl⟩ := List.mem_map.mp ht
        have each : ∀ s ∈ Record.widget.slots.take 5,
            Commute .widget s (payloadSlot kind kind.record kind.wrap) := by
          repeat' first
            | exact List.forall_mem_nil _
            | refine List.forall_mem_cons.mpr
                ⟨fun _ _ _ => ⟨rfl, rfl, rfl, rfl, rfl, fun _ => rfl⟩, ?_⟩
        exact each s hs
  | _ =>
      repeat' first
        | exact List.Pairwise.nil
        | exact List.forall_mem_nil _
        | refine List.Pairwise.cons ?_ ?_
        | refine List.forall_mem_cons.mpr ⟨fun _ _ _ => rfl, ?_⟩
        | refine List.forall_mem_cons.mpr ⟨fun _ _ d => by cases d; rfl, ?_⟩

/-- Slots of different keys can be put in either order. -/
theorem commute_of_named? {r : Record} {key other : String} {s t : Slot r.Draft}
    (hs : Slot.named? key r.allSlots = some s) (ht : Slot.named? other r.allSlots = some t)
    (hne : key ≠ other) : Commute r s t := by
  obtain ⟨first, rfl⟩ := named?_eq_some hs
  obtain ⟨second, rfl⟩ := named?_eq_some ht
  have : Std.Symm (Commute r) := ⟨fun s t h x y d => (h y x d).symm⟩
  exact (pairwise_commute r).forall first second fun same => hne (congrArg Slot.key same)

theorem WidgetDraft.Alike.text {d d' : WidgetDraft} (h : d.Alike d') :
    ∀ slot ∈ Record.widget.slots.take 5, ∀ x,
      WidgetDraft.Alike (slot.put x d) (slot.put x d') := by
  repeat' first
    | exact List.forall_mem_nil _
    | refine List.forall_mem_cons.mpr ⟨fun x => ?_, ?_⟩
  · exact ⟨rfl, h.type, h.title, h.help, h.visibleIf, h.payloads⟩
  · exact ⟨h.id, rfl, h.title, h.help, h.visibleIf, h.payloads⟩
  · exact ⟨h.id, h.type, rfl, h.help, h.visibleIf, h.payloads⟩
  · exact ⟨h.id, h.type, h.title, rfl, h.visibleIf, h.payloads⟩
  · exact ⟨h.id, h.type, h.title, h.help, rfl, h.payloads⟩

theorem WidgetDraft.Alike.payload {d d' : WidgetDraft} (h : d.Alike d') (data : Payload) :
    WidgetDraft.Alike { d with payloads := d.payloads ++ [data] }
      { d' with payloads := d'.payloads ++ [data] } := by
  refine ⟨h.id, h.type, h.title, h.help, h.visibleIf, fun kind => ?_⟩
  rw [ofKind, ofKind, List.filter_append, List.filter_append]
  exact congrArg (· ++ _) (h.payloads kind)

/-- A slot leaves drafts that become the same such. -/
theorem Record.Alike.put {r : Record} {d d' : r.Draft} (h : r.Alike d d') {slot : Slot r.Draft}
    (hs : slot ∈ r.allSlots) (x : slot.shape.Value) : r.Alike (slot.put x d) (slot.put x d') := by
  cases r with
  | widget =>
      rw [widget_allSlots, List.mem_append, List.mem_map] at hs
      obtain hs | ⟨kind, -, rfl⟩ := hs
      · exact WidgetDraft.Alike.text h slot hs x
      · exact WidgetDraft.Alike.payload h (kind.wrap x)
  | _ => exact congrArg (slot.put x) h

/-! ### Entries one after another -/

/-- What an entry does to a draft: it is passed over if the record does not have its key, or if it
is null and may be, and else its value is put. -/
inductive Fills (r : Record) : String × Json → r.Draft → r.Draft → Prop where
  | unknown {key : String} {v : Json} {d : r.Draft}
      (unknown : Slot.named? key r.allSlots = none) : Fills r (key, v) d d
  | null {key : String} {v : Json} {slot : Slot r.Draft} {d : r.Draft}
      (named : Slot.named? key r.allSlots = some slot) (null : slot.skips v = true) :
      Fills r (key, v) d d
  | put {key : String} {v : Json} {slot : Slot r.Draft} {x : slot.shape.Value} {d : r.Draft}
      (named : Slot.named? key r.allSlots = some slot) (present : slot.skips v = false)
      (value : decode v slot.shape = .ok x) : Fills r (key, v) d (slot.put x d)

/-- What entries do to a draft, one after another. -/
inductive FillsAll (r : Record) : List (String × Json) → r.Draft → r.Draft → Prop where
  | nil (d : r.Draft) : FillsAll r [] d d
  | cons {e : String × Json} {rest : List (String × Json)} {d m d' : r.Draft}
      (first : Fills r e d m) (behind : FillsAll r rest m d') : FillsAll r (e :: rest) d d'

section Entries

variable {r : Record} {e e' : String × Json} {es es' : List (String × Json)} {d d' m m' : r.Draft}

/-- What an entry does to a draft, it does to one that becomes the same. -/
theorem Fills.congr (h : Fills r e d d') (alike : r.Alike d m) :
    ∃ m', Fills r e m m' ∧ r.Alike d' m' := by
  cases h with
  | unknown unknown => exact ⟨m, .unknown unknown, alike⟩
  | null named null => exact ⟨m, .null named null, alike⟩
  | put named present value =>
      exact ⟨_, .put named present value, alike.put (named?_eq_some named).1 _⟩

/-- An entry does one thing to a draft. -/
theorem Fills.unique (h : Fills r e d d') (h' : Fills r e d m') : d' = m' := by
  cases h with
  | unknown unknown =>
      cases h' with
      | unknown => rfl
      | null => rfl
      | put named => rw [unknown] at named; cases named
  | null named null =>
      cases h' with
      | unknown => rfl
      | null => rfl
      | put other present =>
          obtain rfl := Option.some.inj (named.symm.trans other)
          rw [null] at present
          cases present
  | put named present value =>
      cases h' with
      | unknown unknown => rw [unknown] at named; cases named
      | null other null =>
          obtain rfl := Option.some.inj (named.symm.trans other)
          rw [null] at present
          cases present
      | put other _ value' =>
          obtain rfl := Option.some.inj (named.symm.trans other)
          obtain rfl := Except.ok.inj (value.symm.trans value')
          rfl

/-- Entries under different keys can be taken in either order. -/
theorem Fills.swap (h : Fills r e d m) (h' : Fills r e' m d')
    (apart : (Slot.named? e.1 r.allSlots).isSome → e.1 ≠ e'.1) :
    ∃ n n', Fills r e' d n ∧ Fills r e n n' ∧ r.Alike d' n' := by
  cases h' with
  | unknown unknown => exact ⟨d, _, .unknown unknown, h, .refl _⟩
  | null named null => exact ⟨d, _, .null named null, h, .refl _⟩
  | put named present value =>
      cases h with
      | unknown unknown => exact ⟨_, _, .put named present value, .unknown unknown, .refl _⟩
      | null other null => exact ⟨_, _, .put named present value, .null other null, .refl _⟩
      | put other present' value' =>
          exact ⟨_, _, .put named present value, .put other present' value',
            commute_of_named? named other (apart (Option.isSome_of_eq_some other)).symm _ _ d⟩

/-- Entries take drafts that are alike to drafts that are alike. -/
theorem FillsAll.congr (h : FillsAll r es d d') (alike : r.Alike d m) :
    ∃ m', FillsAll r es m m' ∧ r.Alike d' m' := by
  induction h generalizing m with
  | nil d => exact ⟨m, .nil m, alike⟩
  | cons first _ ih =>
      obtain ⟨n, hn, alike⟩ := first.congr alike
      obtain ⟨m', hm', alike⟩ := ih alike
      exact ⟨m', .cons hn hm', alike⟩

/-- Entries take a draft to one draft only. -/
theorem FillsAll.unique (h : FillsAll r es d d') (h' : FillsAll r es d m') : d' = m' := by
  induction h with
  | nil d => cases h'; rfl
  | cons first _ ih =>
      cases h' with
      | cons first' behind' =>
          obtain rfl := first.unique first'
          exact ih behind'

theorem fillsAll_append : FillsAll r (es ++ es') d d' ↔
    ∃ m, FillsAll r es d m ∧ FillsAll r es' m d' := by
  induction es generalizing d with
  | nil =>
      constructor
      · exact fun h => ⟨d, .nil d, h⟩
      · rintro ⟨m, h, h'⟩
        cases h
        exact h'
  | cons e rest ih =>
      constructor
      · intro h
        cases h with
        | cons first behind =>
            obtain ⟨m, h, h'⟩ := ih.mp behind
            exact ⟨m, .cons first h, h'⟩
      · rintro ⟨m, h, h'⟩
        cases h with
        | cons first behind => exact .cons first (ih.mpr ⟨m, behind, h'⟩)

/-- No key of the record occurs twice among the entries. -/
def Once (r : Record) (es : List (String × Json)) : Prop :=
  ∀ key, (Slot.named? key r.allSlots).isSome → (es.map Prod.fst).count key ≤ 1

theorem Once.tail (h : Once r (e :: es)) : Once r es := fun key known =>
  Nat.le_trans ((List.sublist_cons_self e.1 (es.map Prod.fst)).count_le key) (h key known)

/-- The order of entries does not matter for whether a key occurs twice. -/
theorem Once.perm (h : Once r es) (perm : es.Perm es') : Once r es' := fun key known =>
  (perm.map Prod.fst).count_eq key ▸ h key known

/-- Entries can be taken in any order. -/
theorem FillsAll.perm (perm : es.Perm es') (once : Once r es) (h : FillsAll r es d d') :
    ∃ m', FillsAll r es' d m' ∧ r.Alike d' m' := by
  induction perm generalizing d d' with
  | nil => exact ⟨d', h, .refl d'⟩
  | cons e _ ih =>
      cases h with
      | cons first behind =>
          obtain ⟨m', behind, alike⟩ := ih once.tail behind
          exact ⟨m', .cons first behind, alike⟩
  | swap e' e rest =>
      cases h with
      | cons first behind =>
          cases behind with
          | cons second behind =>
              have apart : (Slot.named? e.1 r.allSlots).isSome → e.1 ≠ e'.1 := by
                intro known same
                have twice := once e.1 known
                rw [List.map_cons, List.map_cons, same, List.count_cons_self,
                  List.count_cons_self] at twice
                omega
              obtain ⟨n, n', hn, hn', alike⟩ := first.swap second apart
              obtain ⟨m', behind, alike⟩ := behind.congr alike
              exact ⟨m', .cons hn (.cons hn' behind), alike⟩
  | trans perm _ ih ih' =>
      obtain ⟨m, hm, alike⟩ := ih once h
      obtain ⟨m', hm', alike'⟩ := ih' (once.perm perm) hm
      exact ⟨m', hm', alike.trans alike'⟩

end Entries

/-! ### Objects -/

section Objects

variable {r : Record} {key : String} {e : String × Json} {es : List (String × Json)}

/-- The keys of a record are those of all its slots. -/
theorem lookup_keys_eq (r : Record) (key : String) : r.keys.lookup key =
    (Slot.named? key r.allSlots).map fun s => (s.shape, s.nullable) := by
  rw [← lookup_slots]
  congr 1
  cases r <;> rfl

/-- An entry that is read fills the draft. -/
theorem fills_of_readEntry (plain : r.inlined = none) {d d' : r.Draft}
    (h : readEntry r d e = .ok d') : Fills r e d d' := by
  have slots := Record.allSlots_of_plain plain
  obtain ⟨hs, rfl⟩ | ⟨slot, hs, null, rfl⟩ | ⟨slot, hs, present, x, hx, rfl⟩ := readEntry_eq_ok h
  · exact .unknown (slots ▸ hs)
  · exact .null (slots ▸ hs) null
  · exact .put (slots ▸ hs) present hx

theorem named?_groupField (key : String) : Slot.named? key Record.groupField.allSlots =
    (Slot.named? key Record.groupField.slots).or
      ((Slot.named? key Record.field.slots).map Slot.within) := by
  rw [Slot.named?, Record.allSlots, List.find?_append, List.find?_map]
  rfl

/-- An entry of a field of a group is one of its own or one of the field. -/
theorem fills_groupField {d d' : GroupField} {f f' : Field}
    (own : readEntry .groupField d e = .ok d') (inner : readEntry .field f e = .ok f') :
    Fills .groupField e { d with field := f } { d' with field := f' } := by
  rcases e with ⟨key, v⟩
  have named := named?_groupField key
  rcases named?_eq_none_or (r := .groupField) rfl key with none | none
  · rw [none, Option.none_or] at named
    obtain rfl := Except.ok.inj ((readEntry_unknown none).symm.trans own)
    obtain ⟨hs, rfl⟩ | ⟨slot, hs, null, rfl⟩ | ⟨slot, hs, present, x, hx, rfl⟩ :=
      readEntry_eq_ok inner
    · rw [hs] at named
      exact .unknown named
    · rw [hs] at named
      exact .null named null
    · rw [hs] at named
      exact Fills.put (r := .groupField) named present hx
  · have inner_none : Slot.named? key Record.field.slots = .none := none
    rw [inner_none, Option.map_none, Option.or_none] at named
    obtain rfl := Except.ok.inj ((readEntry_unknown inner_none).symm.trans inner)
    obtain ⟨hs, rfl⟩ | ⟨slot, hs, null, rfl⟩ | ⟨slot, hs, present, x, hx, rfl⟩ :=
      readEntry_eq_ok own
    · exact .unknown (named.trans hs)
    · exact .null (named.trans hs) null
    · -- the only slot of its own is that of the identifier
      obtain rfl := List.mem_singleton.mp (named?_eq_some hs).1
      exact .put (named.trans hs) present hx

theorem fillsAll_of_reads (plain : r.inlined = none) {d d' : r.Draft} (h : Reads r es d d') :
    FillsAll r es d d' := by
  induction es generalizing d with
  | nil => exact reads_nil.mp h ▸ .nil d
  | cons e rest ih =>
      obtain ⟨m, first, behind⟩ := reads_cons.mp h
      exact .cons (fills_of_readEntry plain first) (ih behind)

/-- A field of a group is filled from the entries of both records, in their order. -/
theorem fillsAll_groupField {d d' : GroupField} {f f' : Field} (own : Reads .groupField es d d')
    (inner : Reads .field es f f') :
    FillsAll .groupField es { d with field := f } { d' with field := f' } := by
  induction es generalizing d f with
  | nil =>
      obtain rfl := reads_nil.mp own
      obtain rfl := reads_nil.mp inner
      exact .nil _
  | cons e rest ih =>
      obtain ⟨m, first, behind⟩ := reads_cons.mp own
      obtain ⟨g, first', behind'⟩ := reads_cons.mp inner
      exact .cons (fills_groupField first first') (ih behind behind')

/-- An object that is decoded has no known key twice, and its entries make the record of the
defaults. -/
theorem fillsAll_of_decode {x : r.Result} (h : decode (.obj es) (.record r) = .ok x) :
    Once r es ∧ ∃ d, FillsAll r es r.blank d ∧ x = r.finish d := by
  constructor
  · have once := (exists_decode_obj.mp ⟨x, h⟩).2
    simp only [lookup_keys_eq, Option.isSome_map] at once
    exact once
  · rw [decode] at h
    obtain ⟨own, hown, h⟩ := bind_eq_ok.mp h
    have reads := (decodeEntries_eq_ok.mp hown).1
    cases hr : r.inlined with
    | none =>
        simp only [hr] at h
        exact ⟨own, fillsAll_of_reads hr reads, (Except.ok.inj h).symm⟩
    | some flat =>
        simp only [hr] at h
        obtain ⟨inner, hinner, h⟩ := bind_eq_ok.mp h
        have inner_reads := (decodeEntries_eq_ok.mp hinner).1
        cases r with
        | groupField =>
            obtain rfl := Option.some.inj hr
            exact ⟨_, fillsAll_groupField reads inner_reads, (Except.ok.inj h).symm⟩
        | _ => cases hr

/-- What is decoded of an object is what its entries fill. -/
theorem eq_finish_of_decode {x : r.Result} {d : r.Draft}
    (h : decode (.obj es) (.record r) = .ok x) (filled : FillsAll r es r.blank d) :
    x = r.finish d := by
  obtain ⟨-, d', filled', rfl⟩ := fillsAll_of_decode h
  rw [filled.unique filled']

/-- The order of the entries of an object does not matter. -/
theorem decode_perm {es' : List (String × Json)} (perm : es.Perm es') {x : r.Result}
    (h : decode (.obj es) (.record r) = .ok x) : decode (.obj es') (.record r) = .ok x := by
  obtain ⟨once, d, filled, rfl⟩ := fillsAll_of_decode h
  obtain ⟨y, hy⟩ : ∃ y, decode (.obj es') (.record r) = .ok y := by
    obtain ⟨each, single⟩ := exists_decode_obj.mp ⟨_, h⟩
    refine exists_decode_obj.mpr ⟨fun e he => each e (perm.mem_iff.mpr he), fun key known => ?_⟩
    exact (perm.map Prod.fst).count_eq key ▸ single key known
  obtain ⟨d', filled', alike⟩ := filled.perm perm once
  rw [hy, eq_finish_of_decode hy filled', alike.finish_eq]

/-- Any entry can be taken for the last. -/
theorem exists_of_decode_entry {before after : List (String × Json)} {x : r.Result}
    (h : decode (.obj (before ++ e :: after)) (.record r) = .ok x) : ∃ d d',
      FillsAll r (before ++ after) r.blank d ∧ Fills r e d d' ∧ x = r.finish d' := by
  have last : (before ++ e :: after).Perm (before ++ after ++ [e]) :=
    List.perm_middle.trans (List.perm_append_singleton e _).symm
  obtain ⟨-, d', filled, rfl⟩ := fillsAll_of_decode (decode_perm last h)
  obtain ⟨d, filled, behind⟩ := fillsAll_append.mp filled
  cases behind with
  | cons put behind =>
      cases behind with
      | nil => exact ⟨d, d', filled, put, rfl⟩

/-- An array of the values of the first keys is decoded as the object that has them is. -/
def Record.named (r : Record) (items : List Json) : List (String × Json) :=
  (r.slots.map Slot.key).zip items

/-- The items of an array are put into the slots one by one. -/
theorem encodes_of_decodeItems {items : List Json} {length : Nat} {slots : List (Slot r.Draft)}
    {d d' : r.Draft} (h : decodeItems items length r slots d = .ok d') :
    Encodes slots ((slots.map Slot.key).zip items) d d' := by
  induction items generalizing slots d with
  | nil =>
      rw [decodeItems] at h
      obtain rfl := Except.ok.inj h
      rw [List.zip_nil_right]
      exact .skips d
  | cons v rest ih =>
      cases slots with
      | nil => cases h
      | cons slot slots =>
          rw [decodeItems] at h
          split at h
          · next null =>
            obtain ⟨rfl, nullable⟩ := skips_iff.mp null
            exact .null nullable (ih h)
          · next present =>
            obtain ⟨x, hx, h⟩ := bind_eq_ok.mp h
            exact .put hx (Bool.eq_false_iff.mpr present) (ih h)

theorem decode_named {items : List Json} {x : r.Result}
    (h : decode (.arr items) (.record r) = .ok x) :
    decode (.obj (r.named items)) (.record r) = .ok x := by
  have plain := (exists_decode_row.mp ⟨x, h⟩).1
  simp only [decode, plain] at h
  cases hd : decodeItems items items.length r r.slots r.blank with
  | error e => rw [hd] at h; cases h
  | ok d =>
      rw [hd] at h
      obtain rfl := Except.ok.inj h
      refine decode_of_encodes r plain ?_
      rw [List.append_nil]
      exact encodes_of_decodeItems hd

end Objects

/-! ### Changes -/

/-- The change from the one JSON value to the other is that from the one decoded value to the
other: where the change is, there is what is decoded of the new value, and everything else is as it
was. -/
inductive Follows : (s : Shape) → Json → Json → s.Value → s.Value → Prop where
  | text (t u : String) : Follows .text (.str t) (.str u) t u
  | count (i j : Int) : Follows .count (.int i) (.int j) (Int64.ofInt i) (Int64.ofInt j)
  | emptied (s : Shape) (items : List Json) (xs : List s.Value) :
      Follows (.list s) (.arr items) (.arr []) xs []
  | element {s : Shape} {items : List Json} {xs : List s.Value} (i : Nat) {v w : Json}
      {x y : s.Value} (found : items[i]? = some v) (there : xs[i]? = some x)
      (inside : Follows s v w x y) :
      Follows (.list s) (.arr items) (.arr (items.set i w)) xs (xs.set i y)
  | dropped {r : Record} {before after : List (String × Json)} {e : String × Json}
      {d d' : r.Draft} (others : FillsAll r (before ++ after) r.blank d) (put : Fills r e d d') :
      Follows (.record r) (.obj (before ++ e :: after)) (.obj (before ++ after)) (r.finish d')
        (r.finish d)
  | added {r : Record} {es : List (String × Json)} {e : String × Json} {d d' : r.Draft}
      (others : FillsAll r es r.blank d) (put : Fills r e d d') :
      Follows (.record r) (.obj es) (.obj (es ++ [e])) (r.finish d) (r.finish d')
  | entry {r : Record} {before after : List (String × Json)} {key : String}
      {slot : Slot r.Draft} {v w : Json} {x y : slot.shape.Value} {d : r.Draft}
      (named : Slot.named? key r.allSlots = some slot)
      (others : FillsAll r (before ++ after) r.blank d) (inside : Follows slot.shape v w x y) :
      Follows (.record r) (.obj (before ++ (key, v) :: after)) (.obj (before ++ (key, w) :: after))
        (r.finish (slot.put x d)) (r.finish (slot.put y d))
  | item {r : Record} {items items' : List Json} {x y : r.Result}
      (named : Follows (.record r) (.obj (r.named items)) (.obj (r.named items')) x y) :
      Follows (.record r) (.arr items) (.arr items') x y

section Changes

variable {r : Record} {s : Shape} {v w : Json} {before after : List (String × Json)}
  {e : String × Json}

/-- A change has a value other than null on either side. -/
theorem Alters.ne_null (h : Alters s v w) : v ≠ .null ∧ w ≠ .null := by
  cases h <;> exact ⟨nofun, nofun⟩

/-- A list is decoded element by element, so an element can be exchanged. -/
theorem decodeList_set {items : List Json} {xs : List s.Value} {i : Nat}
    (h : decodeList items s = .ok xs) (found : items[i]? = some v) :
    ∃ x, xs[i]? = some x ∧ decode v s = .ok x ∧
      ∀ w y, decode w s = .ok y → decodeList (items.set i w) s = .ok (xs.set i y) := by
  induction items generalizing xs i with
  | nil => cases found
  | cons u rest ih =>
      rw [decodeList] at h
      obtain ⟨x, hx, h⟩ := bind_eq_ok.mp h
      obtain ⟨ys, hys, h⟩ := bind_eq_ok.mp h
      obtain rfl := Except.ok.inj h
      cases i with
      | zero =>
          obtain rfl := Option.some.inj found
          refine ⟨x, rfl, hx, fun w y hy => ?_⟩
          rw [List.set_cons_zero, decodeList, hy, hys]
          rfl
      | succ i =>
          obtain ⟨z, there, hz, set⟩ := ih hys found
          refine ⟨z, there, hz, fun w y hy => ?_⟩
          rw [List.set_cons_succ, decodeList, hx, set w y hy]
          rfl

/-- Without an entry an object is decoded as the other entries say. -/
theorem decode_dropped {x : r.Result}
    (h : decode (.obj (before ++ e :: after)) (.record r) = .ok x) :
    ∃ y, decode (.obj (before ++ after)) (.record r) = .ok y ∧
      Follows (.record r) (.obj (before ++ e :: after)) (.obj (before ++ after)) x y := by
  have admitted := (exists_decode_iff (s := .record r)).mp ⟨x, h⟩
  obtain ⟨y, hy⟩ := (exists_decode_iff (s := .record r)).mpr admitted.dropped
  obtain ⟨d, d', others, put, rfl⟩ := exists_of_decode_entry h
  obtain rfl := eq_finish_of_decode hy others
  exact ⟨_, hy, .dropped others put⟩

/-- One more entry puts its value, and leaves the others. -/
theorem decode_added {es : List (String × Json)} {x : r.Result}
    (h : decode (.obj es) (.record r) = .ok x)
    (admitted : Admits false (.record r) (.obj (es ++ [e]))) :
    ∃ y, decode (.obj (es ++ [e])) (.record r) = .ok y ∧
      Follows (.record r) (.obj es) (.obj (es ++ [e])) x y := by
  obtain ⟨y, hy⟩ := (exists_decode_iff (s := .record r)).mpr admitted
  obtain ⟨d, d', others, put, rfl⟩ := exists_of_decode_entry hy
  rw [List.append_nil] at others
  obtain rfl := eq_finish_of_decode h others
  exact ⟨_, hy, .added others put⟩

/-- A change under a key is one of what the key puts. -/
theorem decode_entry {key : String} {m : Bool} {x : r.Result}
    (h : decode (.obj (before ++ (key, v) :: after)) (.record r) = .ok x)
    (known : r.keys.lookup key = some (s, m)) (change : Alters s v w)
    (inside : ∀ a, decode v s = .ok a → ∃ b, decode w s = .ok b ∧ Follows s v w a b) :
    ∃ y, decode (.obj (before ++ (key, w) :: after)) (.record r) = .ok y ∧
      Follows (.record r) (.obj (before ++ (key, v) :: after))
        (.obj (before ++ (key, w) :: after)) x y := by
  have admitted := (exists_decode_iff (s := .record r)).mp ⟨x, h⟩
  obtain ⟨y, hy⟩ := (exists_decode_iff (s := .record r)).mpr
    (admitted.alters (.entry before after known change))
  rw [lookup_keys_eq, Option.map_eq_some_iff] at known
  obtain ⟨slot, named, shape⟩ := known
  obtain ⟨rfl, rfl⟩ := Prod.mk.inj shape
  have present {u : Json} (hu : u ≠ .null) : slot.skips u = false :=
    Bool.eq_false_iff.mpr fun null => hu (skips_iff.mp null).1
  obtain ⟨d, d', others, put, rfl⟩ := exists_of_decode_entry h
  obtain ⟨e, e', others', put', rfl⟩ := exists_of_decode_entry hy
  obtain rfl := others.unique others'
  obtain ⟨a, ha⟩ : ∃ a, decode v slot.shape = .ok a := by
    cases put with
    | unknown unknown => rw [unknown] at named; cases named
    | null other null => exact absurd (skips_iff.mp null).1 change.ne_null.1
    | put other _ value =>
        obtain rfl := Option.some.inj (named.symm.trans other)
        exact ⟨_, value⟩
  obtain ⟨b, hb, follows⟩ := inside a ha
  obtain rfl := put.unique (.put named (present change.ne_null.1) ha)
  obtain rfl := put'.unique (.put named (present change.ne_null.2) hb)
  exact ⟨_, hy, .entry named others follows⟩

/-- To exchange an element of the second list exchanges one pair. -/
theorem zip_set {α β : Type} {as : List α} {bs : List β} {i : Nat} {a : α} {b : β} (b' : β)
    (ha : as[i]? = some a) (hb : bs[i]? = some b) : ∃ before after : List (α × β),
      as.zip bs = before ++ (a, b) :: after ∧
        as.zip (bs.set i b') = before ++ (a, b') :: after := by
  induction as generalizing bs i with
  | nil => cases ha
  | cons c as ih =>
      cases bs with
      | nil => cases hb
      | cons d bs =>
          cases i with
          | zero =>
              obtain rfl := Option.some.inj ha
              obtain rfl := Option.some.inj hb
              exact ⟨[], as.zip bs, rfl, rfl⟩
          | succ i =>
              obtain ⟨before, after, old, new⟩ := ih ha hb
              exact ⟨(c, d) :: before, after, congrArg _ old, congrArg _ new⟩

/-- A change of an item of an array is one under the key that the item stands for. -/
theorem decode_item {items : List Json} {i : Nat} {key : String} {m : Bool} {x : r.Result}
    (h : decode (.arr items) (.record r) = .ok x) (found : items[i]? = some v)
    (known : r.keys[i]? = some (key, s, m)) (change : Alters s v w)
    (inside : ∀ a, decode v s = .ok a → ∃ b, decode w s = .ok b ∧ Follows s v w a b) :
    ∃ y, decode (.arr (items.set i w)) (.record r) = .ok y ∧
      Follows (.record r) (.arr items) (.arr (items.set i w)) x y := by
  have admitted := (exists_decode_iff (s := .record r)).mp ⟨x, h⟩
  obtain ⟨y, hy⟩ := (exists_decode_iff (s := .record r)).mpr
    (admitted.alters (.item i found known change))
  have plain := (exists_decode_row.mp ⟨x, h⟩).1
  obtain ⟨slot, hslot, ⟨⟩⟩ : ∃ slot, r.slots[i]? = some slot ∧
      (slot.key, slot.shape, slot.nullable) = (key, s, m) := by
    rwa [Record.keys, plain, List.append_nil, List.getElem?_map, Option.map_eq_some_iff] at known
  have lookup : r.keys.lookup slot.key = some (slot.shape, slot.nullable) := by
    have named := named?_of_mem (nodup_keys r) (List.mem_of_getElem? hslot)
    rw [lookup_keys_eq, Record.allSlots_of_plain plain, named]
    rfl
  have hkey : (r.slots.map Slot.key)[i]? = some slot.key := by
    rw [List.getElem?_map, hslot]
    rfl
  obtain ⟨before, after, old, new⟩ := zip_set w hkey found
  have object := decode_named h
  have object' := decode_named hy
  rw [Record.named, old] at object
  rw [Record.named, new] at object'
  obtain ⟨y', hy', follows⟩ := decode_entry object lookup change inside
  obtain rfl := Except.ok.inj (object'.symm.trans hy')
  refine ⟨y, hy, .item ?_⟩
  rwa [Record.named, Record.named, old, new]

/-- What is decoded follows a change of meaning. -/
theorem decode_alters {x : s.Value} (change : Alters s v w) (h : decode v s = .ok x) :
    ∃ y, decode w s = .ok y ∧ Follows s v w x y := by
  induction change with
  | text t u =>
      obtain rfl := Except.ok.inj h
      exact ⟨u, rfl, .text t u⟩
  | count i low high =>
      rw [decode, countOfInt] at h
      split at h
      · obtain rfl := Except.ok.inj h
        exact ⟨_, if_pos ⟨low, high⟩, .count i _⟩
      · cases h
  | emptied s items => exact ⟨[], rfl, .emptied s items x⟩
  | element i found _ ih =>
      rw [decode] at h
      obtain ⟨a, there, ha, set⟩ := decodeList_set h found
      obtain ⟨b, hb, follows⟩ := ih ha
      exact ⟨x.set i b, set _ b hb, .element i found there follows⟩
  | dropped before after e => exact decode_dropped h
  | added known absent fit =>
      have admitted := (exists_decode_iff (s := .record _)).mp ⟨x, h⟩
      exact decode_added h (admitted.added known absent fit)
  | entry before after known change ih => exact decode_entry h known change fun _ ha => ih ha
  | item i found known change ih => exact decode_item h found known change fun _ ha => ih ha

end Changes

end EntryForm.Wire

namespace EntryForm
open Wire

/-- A form that a change of meaning leaves decodable is the form from before with that change. -/
theorem Form.decode_alters {v w : Json} {f : Form} (change : Alters (.record .form) v w)
    (h : decode v (.record .form) = .ok f) :
    ∃ g : Form, decode w (.record .form) = .ok g ∧ Follows (.record .form) v w f g :=
  Wire.decode_alters (s := .record .form) change h

/-- A widget whose type becomes one that names no kind is decoded with that type, and it is the
type that is reported. -/
theorem Widget.decode_retyped {before after : List (String × Json)} {t u : String} {w : Widget}
    (h : decode (.obj (before ++ ("type", .str t) :: after)) (.record .widget) = .ok w)
    (unnamed : Kind.ofName? u = none) (nonempty : u ≠ "") (o : Options) (p : Path) :
    ∃ w' : Widget, decode (.obj (before ++ ("type", .str u) :: after)) (.record .widget) = .ok w' ∧
      w'.id = w.id ∧ w'.body = .unknown u ∧
      ⟨p.field "type", .unknownType u⟩ ∈ w'.violations o p := by
  have named : Slot.named? "type" Record.widget.allSlots =
      some (.plain "type" .text fun v d => { d with type := v }) := rfl
  obtain ⟨w', hw', -⟩ := Wire.decode_entry h (s := .text) rfl (.text t u)
    fun a ha => ⟨u, rfl, Except.ok.inj ha ▸ .text t u⟩
  -- both widgets come from the draft of the other entries
  obtain ⟨d, d', others, put, rfl⟩ := exists_of_decode_entry h
  obtain ⟨e, e', others', put', rfl⟩ := exists_of_decode_entry hw'
  obtain rfl := others.unique others'
  obtain rfl := put.unique (.put named rfl rfl)
  obtain rfl := put'.unique (.put named rfl rfl)
  have body : (WidgetDraft.widget { d with type := u }).body = .unknown u := by
    simp only [WidgetDraft.widget, unnamed]
  have reported : ⟨p.field "type", .unknownType u⟩ ∈ (Body.unknown u).violations o p := by
    rw [Body.violations, if_neg fun h => nonempty (String.isEmpty_iff.mp h)]
    exact List.mem_singleton_self _
  refine ⟨_, hw', rfl, body, List.mem_append_left _ (List.mem_append_right _ ?_)⟩
  exact (congrArg (Body.violations o p) body) ▸ reported

end EntryForm
