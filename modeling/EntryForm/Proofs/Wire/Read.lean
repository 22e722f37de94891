import EntryForm.Document
import EntryForm.Proofs.Wire.Entries
import EntryForm.Proofs.Yaml.Sorted

/-!
# Proofs — Wire — what holds of everything that is read

The readers of both formats build a record slot by slot from a blank one, and a widget from its
draft (`WidgetDraft.widget`).

* `Invariant`: a property of values and of drafts that these steps keep up.
* `Yaml.Keeps I d fuel`, `Json.Keeps I fuel`: with this fuel, whatever is read has the property.
  One more unit of fuel keeps it up, reader by reader, so that it holds at any fuel (`keeps`).
* `Form.value_of_read`: so it holds of a form.
* `Form.all_of_read`: what holds of each widget that is made from a draft holds of all widgets of a
  form that is read.
* `Form.sorted_of_read`: labels and metadata of a form that is read are sorted.
-/

namespace EntryForm

namespace Wire

theorem exists_of_map_toOption {ε α β : Type} {x : Except ε α} {g : α → β} {b : β}
    (h : x.toOption.map g = some b) : ∃ a, x = .ok a ∧ g a = b := by
  cases x with
  | error e => cases h
  | ok a => exact ⟨a, rfl, Option.some.inj h⟩

/-! ### Invariants -/

/-- What holds of every value that is read.  It holds of blank records, each slot keeps it up, and
it passes from the draft to the record. -/
structure Invariant where
  value : (s : Shape) → s.Value → Prop
  draft : (r : Record) → r.Draft → Prop
  text (t : String) : value .text t
  flag (b : Bool) : value .flag b
  count (n : Count) : value .count n
  number (x : Float) : value .number x
  /-- Labels are sorted once they are read. -/
  labels (ls : List (String × String)) : value .labels (sortEntries ls)
  /-- Free data is sorted, outside and inside. -/
  free {es : List (String × Json)} (h : ∀ e ∈ es, e.2.sorted = e.2) : value .free (sortEntries es)
  list {s : Shape} {xs : List s.Value} (h : ∀ x ∈ xs, value s x) : value (.list s) xs
  blank (r : Record) : draft r r.blank
  put {r : Record} {slot : Slot r.Draft} (hslot : slot ∈ r.slots) {x : slot.shape.Value}
    {d : r.Draft} (hx : value slot.shape x) (hd : draft r d) : draft r (slot.put x d)
  /-- A record may be put flat into another. -/
  inlined {r : Record} {flat : Inlined r.Draft} (h : r.inlined = some flat)
    {x : flat.record.Result} {d : r.Draft} (hd : draft r d) : draft r (flat.put x d)
  finish {r : Record} {d : r.Draft} (hd : draft r d) : value (.record r) (r.finish d)

end Wire

open Wire

variable {I : Invariant}

/-! ### YAML -/

namespace Yaml

/-- A mapping that is read is blank, or has been read inside. -/
theorem readMapping_eq_ok {α : Type} {o : Opened} {depth : Nat} {path : Path} {expected : String}
    {empty : α} {read : Nat → Progress → Except Error (α × Progress)} {x : α × Progress}
    (h : readMapping o depth path expected empty read = .ok x) :
    x.1 = empty ∨ ∃ depth' p y, read depth' p = .ok y ∧ x.1 = y.1 := by
  rw [readMapping] at h
  split at h
  · exact .inl (Except.ok.inj h ▸ rfl)
  · split at h
    · obtain ⟨depth', -, h⟩ := bind_eq_ok.mp h
      obtain ⟨y, hy, h⟩ := bind_eq_ok.mp h
      exact .inr ⟨depth', _, y, Opened.place_eq_ok.mp hy, Except.ok.inj h ▸ rfl⟩
    · exact absurd h Opened.misfit_ne_ok

/-- With this fuel, whatever is read has the property. -/
structure Keeps (I : Invariant) (d : Document) (fuel : Nat) : Prop where
  shape : ∀ {depth path s p x}, readShape d fuel depth path s p = .ok x → I.value s x.1
  elements : ∀ {depth path s i p x}, readElements d fuel depth path s i p = .ok x →
    ∀ v ∈ x.1, I.value s v
  slot : ∀ {depth path} {r : Record} {slot : Slot r.Draft} {draft p x}, slot ∈ r.slots →
    I.draft r draft → readSlot d fuel depth path r slot draft p = .ok x → I.draft r x.1
  members : ∀ {depth path r seen draft p x}, I.draft r draft →
    readMembers d fuel depth path r seen draft p = .ok x → I.draft r x.1
  flatMembers : ∀ {depth path r seen draft p x}, I.draft r draft →
    readFlatMembers d fuel depth path r seen draft p = .ok x → I.draft r x.1

variable {d : Document} {fuel depth : Nat} {path : Path} {p : Progress}

/-- Without fuel nothing is read. -/
theorem keeps_zero : Keeps I d 0 where
  shape h := by rw [Yaml.readShape] at h; cases h
  elements h := by rw [Yaml.readElements] at h; cases h
  slot _ _ h := by rw [Yaml.readSlot] at h; cases h
  members _ h := by rw [Yaml.readMembers] at h; cases h
  flatMembers _ h := by rw [Yaml.readFlatMembers] at h; cases h

/-- One more unit of fuel reads a value of any shape. -/
theorem Keeps.readShape (ih : Keeps I d fuel) {s : Shape} {x : s.Value × Progress}
    (h : readShape d (fuel + 1) depth path s p = .ok x) : I.value s x.1 := by
  cases s with
  | text => exact I.text x.1
  | flag => exact I.flag x.1
  | count => exact I.count x.1
  | number => exact I.number x.1
  | labels =>
      rw [Yaml.readShape] at h
      obtain ⟨o, -, h⟩ := bind_eq_ok.mp h
      obtain ⟨ls, -, h⟩ := bind_eq_ok.mp h
      obtain rfl := Except.ok.inj h
      exact I.labels ls.1
  | free =>
      rw [Yaml.readShape] at h
      obtain ⟨o, -, h⟩ := bind_eq_ok.mp h
      obtain ⟨es, hes, h⟩ := bind_eq_ok.mp h
      obtain rfl := Except.ok.inj h
      refine I.free ?_
      obtain blank | ⟨depth', p', z, hz, same⟩ := readMapping_eq_ok hes
      · exact blank ▸ List.forall_mem_nil _
      · exact same ▸ sorted_of_readFree hz
  | list item =>
      rw [Yaml.readShape] at h
      obtain ⟨o, -, h⟩ := bind_eq_ok.mp h
      split at h
      · obtain rfl := Except.ok.inj h
        exact I.list (List.forall_mem_nil _)
      · split at h
        · obtain ⟨depth', -, h⟩ := bind_eq_ok.mp h
          obtain ⟨y, hy, h⟩ := bind_eq_ok.mp h
          have items := ih.elements (Opened.place_eq_ok.mp hy)
          obtain rfl := Except.ok.inj h
          exact I.list items
        · exact absurd h Opened.misfit_ne_ok
  | record r =>
      rw [Yaml.readShape] at h
      obtain ⟨o, -, h⟩ := bind_eq_ok.mp h
      split at h
      · obtain ⟨y, hy, h⟩ := bind_eq_ok.mp h
        obtain rfl := Except.ok.inj h
        refine I.finish ?_
        obtain blank | ⟨depth', p', z, hz, same⟩ := readMapping_eq_ok hy
        · exact blank ▸ I.blank r
        · exact same ▸ ih.members (I.blank r) hz
      · next flat hflat =>
        obtain ⟨y, hy, h⟩ := bind_eq_ok.mp h
        obtain rfl := Except.ok.inj h
        refine I.finish ?_
        obtain blank | ⟨depth', p', z, hz, same⟩ := readMapping_eq_ok hy
        · exact blank ▸ I.inlined hflat (I.blank r)
        · obtain ⟨⟨draft, others, p''⟩, hown, hz⟩ := bind_eq_ok.mp hz
          dsimp only at hz
          split at hz
          · obtain rfl := Except.ok.inj hz
            exact same ▸ I.inlined hflat (ih.flatMembers (I.blank r) hown)
          · cases hz

/-- One more unit of fuel reads one more element. -/
theorem Keeps.readElements (ih : Keeps I d fuel) {s : Shape} {i : Nat}
    {x : List s.Value × Progress}
    (h : readElements d (fuel + 1) depth path s i p = .ok x) : ∀ v ∈ x.1, I.value s v := by
  rw [Yaml.readElements] at h
  obtain ⟨e, -, h⟩ := bind_eq_ok.mp h
  split at h
  · obtain rfl := Except.ok.inj h
    exact fun v hv => absurd hv List.not_mem_nil
  · obtain ⟨first, hfirst, h⟩ := bind_eq_ok.mp h
    obtain ⟨rest, hrest, h⟩ := bind_eq_ok.mp h
    obtain rfl := Except.ok.inj h
    exact List.forall_mem_cons.mpr ⟨ih.shape hfirst, ih.elements hrest⟩

/-- One more unit of fuel reads the value of a slot. -/
theorem Keeps.readSlot (ih : Keeps I d fuel) {r : Record} {slot : Slot r.Draft} {draft : r.Draft}
    {x : r.Draft × Progress} (hslot : slot ∈ r.slots) (hd : I.draft r draft)
    (h : readSlot d (fuel + 1) depth path r slot draft p = .ok x) : I.draft r x.1 := by
  rw [Yaml.readSlot] at h
  split at h
  · obtain ⟨o, -, h⟩ := bind_eq_ok.mp h
    obtain ⟨absent, -, h⟩ := bind_eq_ok.mp h
    split at h
    · exact Except.ok.inj h ▸ hd
    · obtain ⟨y, hy, h⟩ := bind_eq_ok.mp h
      obtain rfl := Except.ok.inj h
      exact I.put hslot (ih.shape hy) hd
  · obtain ⟨y, hy, h⟩ := bind_eq_ok.mp h
    obtain rfl := Except.ok.inj h
    exact I.put hslot (ih.shape hy) hd

/-- One more unit of fuel reads one more member of a record. -/
theorem Keeps.readMembers (ih : Keeps I d fuel) {r : Record} {seen : List String}
    {draft : r.Draft} {x : r.Draft × Progress} (hd : I.draft r draft)
    (h : readMembers d (fuel + 1) depth path r seen draft p = .ok x) : I.draft r x.1 := by
  rw [Yaml.readMembers] at h
  obtain ⟨e, -, h⟩ := bind_eq_ok.mp h
  split at h
  · exact Except.ok.inj h ▸ hd
  · obtain ⟨⟨key, p'⟩, -, h⟩ := bind_eq_ok.mp h
    dsimp only at h
    split at h
    · obtain ⟨p'', -, h⟩ := bind_eq_ok.mp h
      exact ih.members hd h
    · next slot hslot =>
      split at h
      · cases h
      · obtain ⟨y, hy, h⟩ := bind_eq_ok.mp h
        exact ih.members (ih.slot (named?_eq_some hslot).1 hd hy) h

/-- One more unit of fuel reads one more member of a record with another one flat within it. -/
theorem Keeps.readFlatMembers (ih : Keeps I d fuel) {r : Record} {seen : List String}
    {draft : r.Draft} {x : r.Draft × List (String × Json) × Progress} (hd : I.draft r draft)
    (h : readFlatMembers d (fuel + 1) depth path r seen draft p = .ok x) : I.draft r x.1 := by
  rw [Yaml.readFlatMembers] at h
  obtain ⟨e, -, h⟩ := bind_eq_ok.mp h
  split at h
  · exact Except.ok.inj h ▸ hd
  · obtain ⟨⟨key, p'⟩, -, h⟩ := bind_eq_ok.mp h
    dsimp only at h
    split at h
    · obtain ⟨v, -, h⟩ := bind_eq_ok.mp h
      obtain ⟨y, hy, h⟩ := bind_eq_ok.mp h
      have rest := ih.flatMembers hd hy
      obtain rfl := Except.ok.inj h
      exact rest
    · next slot hslot =>
      split at h
      · cases h
      · obtain ⟨y, hy, h⟩ := bind_eq_ok.mp h
        exact ih.flatMembers (ih.slot (named?_eq_some hslot).1 hd hy) h

/-- With any fuel, whatever is read has the property. -/
theorem keeps (I : Invariant) (d : Document) (fuel : Nat) :
    Keeps I d fuel := by
  -- the readers call one another with less fuel, whatever the shape, so one induction serves all
  induction fuel with
  | zero => exact keeps_zero
  | succ fuel ih =>
      exact ⟨ih.readShape, ih.readElements, ih.readSlot, ih.readMembers, ih.readFlatMembers⟩

/-- Whatever is read from a text has the property. -/
theorem value_of_readAs {s : Shape} {text : String}
    {v : s.Value} (h : readAs s text = .ok v) : I.value s v := by
  rw [readAs] at h
  obtain ⟨⟨v', p⟩, hv, h⟩ := bind_eq_ok.mp h
  dsimp only at h
  split at h
  · cases h
  · split at h
    · cases h
    · obtain rfl := Except.ok.inj h
      exact (keeps I _ _).shape hv

end Yaml

/-! ### JSON -/

namespace Json

/-- With this fuel, whatever is read has the property. -/
structure Keeps (I : Invariant) (fuel : Nat) : Prop where
  shape : ∀ {depth s k x}, readShape fuel depth s k = .ok x → I.value s x.1
  elements : ∀ {depth s first k x}, readElements fuel depth s first k = .ok x →
    ∀ v ∈ x.1, I.value s v
  slot : ∀ {depth} {r : Record} {slot : Slot r.Draft} {d k x}, slot ∈ r.slots → I.draft r d →
    readSlot fuel depth r slot d k = .ok x → I.draft r x.1
  members : ∀ {depth r seen d first k x}, I.draft r d →
    readMembers fuel depth r seen d first k = .ok x → I.draft r x.1
  flatMembers : ∀ {depth r seen d first k x}, I.draft r d →
    readFlatMembers fuel depth r seen d first k = .ok x → I.draft r x.1
  slots : ∀ {depth} {r : Record} {slots : List (Slot r.Draft)} {d first k x}, slots ⊆ r.slots →
    I.draft r d → readSlots fuel depth r slots d first k = .ok x → I.draft r x.1

variable {fuel depth : Nat} {k : Cursor}

theorem keeps_zero : Keeps I 0 where
  shape h := by rw [Json.readShape] at h; cases h
  elements h := by rw [Json.readElements] at h; cases h
  slot _ _ h := by rw [Json.readSlot] at h; cases h
  members _ h := by rw [Json.readMembers] at h; cases h
  flatMembers _ h := by rw [Json.readFlatMembers] at h; cases h
  slots _ _ h := by rw [Json.readSlots] at h; cases h

theorem wrongType_ne_ok {α : Type} {expected : String} {a : α} : wrongType expected k ≠ .ok a := by
  intro h
  unfold wrongType at h
  -- whatever is read for the sake of the message, a fault follows
  split at h
  · obtain ⟨_, -, h⟩ := bind_eq_ok.mp h
    cases h
  · obtain ⟨_, -, h⟩ := bind_eq_ok.mp h
    cases h
  · obtain ⟨_, -, h⟩ := bind_eq_ok.mp h
    cases h
  · obtain ⟨_, -, h⟩ := bind_eq_ok.mp h
    cases h
  · obtain ⟨_, -, h⟩ := bind_eq_ok.mp h
    cases h
  · cases h
  · cases h
  · split at h
    · obtain ⟨_, -, h⟩ := bind_eq_ok.mp h
      cases h
    · cases h
  · cases h

theorem failObject_ne_ok {α : Type} {m : Mismatch} {a : α} : failObject k m ≠ .ok a := by
  intro h
  unfold failObject at h
  dsimp only at h
  split at h
  · cases h
  · cases h

/-- One more unit of fuel reads a value of any shape. -/
theorem Keeps.readShape (ih : Keeps I fuel) {s : Shape} {x : s.Value × Cursor}
    (h : readShape (fuel + 1) depth s k = .ok x) : I.value s x.1 := by
  cases s with
  | text => exact I.text x.1
  | flag => exact I.flag x.1
  | count => exact I.count x.1
  | number => exact I.number x.1
  | labels =>
      rw [Json.readShape] at h
      dsimp only at h
      split at h
      · cases h
      · obtain ⟨_, -, h⟩ := bind_eq_ok.mp h
        obtain ⟨ls, -, h⟩ := bind_eq_ok.mp h
        obtain ⟨_, -, h⟩ := bind_eq_ok.mp h
        obtain rfl := Except.ok.inj h
        exact I.labels ls.1
      · exact absurd h wrongType_ne_ok
  | free =>
      rw [Json.readShape] at h
      dsimp only at h
      split at h
      · cases h
      · obtain ⟨_, -, h⟩ := bind_eq_ok.mp h
        obtain ⟨es, hes, h⟩ := bind_eq_ok.mp h
        obtain ⟨_, -, h⟩ := bind_eq_ok.mp h
        obtain rfl := Except.ok.inj h
        exact I.free (sorted_of_readAnyMembers hes)
      · exact absurd h wrongType_ne_ok
  | list item =>
      rw [Json.readShape] at h
      dsimp only at h
      split at h
      · cases h
      · obtain ⟨_, -, h⟩ := bind_eq_ok.mp h
        obtain ⟨y, hy, h⟩ := bind_eq_ok.mp h
        obtain ⟨_, -, h⟩ := bind_eq_ok.mp h
        have items := ih.elements hy
        obtain rfl := Except.ok.inj h
        exact I.list items
      · exact absurd h wrongType_ne_ok
  | record r =>
      rw [Json.readShape] at h
      dsimp only at h
      split at h
      · cases h
      · obtain ⟨_, -, h⟩ := bind_eq_ok.mp h
        split at h
        · obtain ⟨y, hy, h⟩ := bind_eq_ok.mp h
          obtain ⟨_, -, h⟩ := bind_eq_ok.mp h
          obtain rfl := Except.ok.inj h
          exact I.finish (ih.members (I.blank r) hy)
        · next flat hflat =>
          obtain ⟨⟨d, others, _⟩, hown, h⟩ := bind_eq_ok.mp h
          dsimp only at h
          split at h
          · exact absurd h failObject_ne_ok
          · obtain ⟨_, -, h⟩ := bind_eq_ok.mp h
            obtain rfl := Except.ok.inj h
            exact I.finish (I.inlined hflat (ih.flatMembers (I.blank r) hown))
      · split at h
        · exact absurd h wrongType_ne_ok
        · obtain ⟨_, -, h⟩ := bind_eq_ok.mp h
          obtain ⟨y, hy, h⟩ := bind_eq_ok.mp h
          obtain ⟨_, -, h⟩ := bind_eq_ok.mp h
          obtain rfl := Except.ok.inj h
          exact I.finish (ih.slots (List.Subset.refl _) (I.blank r) hy)
      · exact absurd h wrongType_ne_ok

theorem Keeps.readElements (ih : Keeps I fuel) {s : Shape} {first : Bool}
    {x : List s.Value × Cursor} (h : readElements (fuel + 1) depth s first k = .ok x) :
    ∀ v ∈ x.1, I.value s v := by
  rw [Json.readElements] at h
  obtain ⟨⟨more, k'⟩, -, h⟩ := bind_eq_ok.mp h
  dsimp only at h
  split at h
  · obtain ⟨first, hfirst, h⟩ := bind_eq_ok.mp h
    obtain ⟨rest, hrest, h⟩ := bind_eq_ok.mp h
    obtain rfl := Except.ok.inj h
    exact List.forall_mem_cons.mpr ⟨ih.shape hfirst, ih.elements hrest⟩
  · obtain rfl := Except.ok.inj h
    exact fun v hv => absurd hv List.not_mem_nil

theorem Keeps.readSlot (ih : Keeps I fuel) {r : Record} {slot : Slot r.Draft} {d : r.Draft}
    {x : r.Draft × Cursor} (hslot : slot ∈ r.slots) (hd : I.draft r d)
    (h : readSlot (fuel + 1) depth r slot d k = .ok x) : I.draft r x.1 := by
  rw [Json.readSlot] at h
  dsimp only at h
  split at h
  · obtain ⟨k', -, h⟩ := bind_eq_ok.mp h
    exact Except.ok.inj h ▸ hd
  · obtain ⟨y, hy, h⟩ := bind_eq_ok.mp h
    obtain rfl := Except.ok.inj h
    exact I.put hslot (ih.shape hy) hd

theorem Keeps.readMembers (ih : Keeps I fuel) {r : Record} {seen : List String} {d : r.Draft}
    {first : Bool} {x : r.Draft × Cursor} (hd : I.draft r d)
    (h : readMembers (fuel + 1) depth r seen d first k = .ok x) : I.draft r x.1 := by
  rw [Json.readMembers] at h
  obtain ⟨⟨more, k'⟩, -, h⟩ := bind_eq_ok.mp h
  dsimp only at h
  split at h
  · obtain ⟨⟨key, k''⟩, -, h⟩ := bind_eq_ok.mp h
    dsimp only at h
    split at h
    · obtain ⟨_, -, h⟩ := bind_eq_ok.mp h
      obtain ⟨_, -, h⟩ := bind_eq_ok.mp h
      exact ih.members hd h
    · next slot hslot =>
      split at h
      · exact absurd h failObject_ne_ok
      · obtain ⟨_, -, h⟩ := bind_eq_ok.mp h
        obtain ⟨y, hy, h⟩ := bind_eq_ok.mp h
        exact ih.members (ih.slot (named?_eq_some hslot).1 hd hy) h
  · exact Except.ok.inj h ▸ hd

theorem Keeps.readFlatMembers (ih : Keeps I fuel) {r : Record} {seen : List String} {d : r.Draft}
    {first : Bool} {x : r.Draft × List (String × Json) × Cursor} (hd : I.draft r d)
    (h : readFlatMembers (fuel + 1) depth r seen d first k = .ok x) : I.draft r x.1 := by
  rw [Json.readFlatMembers] at h
  obtain ⟨⟨more, k'⟩, -, h⟩ := bind_eq_ok.mp h
  dsimp only at h
  split at h
  · obtain ⟨⟨key, k''⟩, -, h⟩ := bind_eq_ok.mp h
    dsimp only at h
    split at h
    · obtain ⟨_, -, h⟩ := bind_eq_ok.mp h
      obtain ⟨_, -, h⟩ := bind_eq_ok.mp h
      obtain ⟨y, hy, h⟩ := bind_eq_ok.mp h
      have rest := ih.flatMembers hd hy
      obtain rfl := Except.ok.inj h
      exact rest
    · next slot hslot =>
      split at h
      · exact absurd h failObject_ne_ok
      · obtain ⟨_, -, h⟩ := bind_eq_ok.mp h
        obtain ⟨y, hy, h⟩ := bind_eq_ok.mp h
        exact ih.flatMembers (ih.slot (named?_eq_some hslot).1 hd hy) h
  · exact Except.ok.inj h ▸ hd

theorem Keeps.readSlots (ih : Keeps I fuel) {r : Record} {slots : List (Slot r.Draft)}
    {d : r.Draft} {first : Bool} {x : r.Draft × Cursor} (hslots : slots ⊆ r.slots)
    (hd : I.draft r d) (h : readSlots (fuel + 1) depth r slots d first k = .ok x) :
    I.draft r x.1 := by
  cases slots with
  | nil =>
      rw [Json.readSlots] at h
      exact Except.ok.inj h ▸ hd
  | cons slot slots =>
      rw [Json.readSlots] at h
      obtain ⟨⟨more, k'⟩, -, h⟩ := bind_eq_ok.mp h
      dsimp only at h
      split at h
      · obtain ⟨y, hy, h⟩ := bind_eq_ok.mp h
        have rest := List.subset_of_cons_subset hslots
        exact ih.slots rest (ih.slot (hslots List.mem_cons_self) hd hy) h
      · exact Except.ok.inj h ▸ hd

theorem keeps (I : Invariant) (fuel : Nat) : Keeps I fuel := by
  induction fuel with
  | zero => exact keeps_zero
  | succ fuel ih =>
      exact ⟨ih.readShape, ih.readElements, ih.readSlot, ih.readMembers, ih.readFlatMembers,
        ih.readSlots⟩

theorem value_of_readAs {s : Shape} {text : String}
    {v : s.Value} (h : readAs s text = .ok v) : I.value s v := by
  rw [readAs] at h
  obtain ⟨y, hy, h⟩ := bind_eq_ok.mp h
  obtain ⟨_, -, h⟩ := bind_eq_ok.mp h
  obtain rfl := Except.ok.inj h
  exact (keeps I _).shape hy

end Json

/-! ### Forms -/

/-- Every form that is read has the property. -/
theorem Form.value_of_read (I : Invariant) {format : Format} {text : String} {f : Form}
    (h : Form.read format text = .ok f) : I.value (.record .form) f := by
  cases format with
  | json =>
      cases hread : Json.readAs (.record .form) text with
      | error e => rw [Form.read, hread] at h; cases h
      | ok g =>
          rw [Form.read, hread] at h
          exact Except.ok.inj h ▸ Json.value_of_readAs hread
  | yaml =>
      cases hread : Yaml.readAs (.record .form) text with
      | error e => rw [Form.read, hread] at h; cases h
      | ok g =>
          rw [Form.read, hread] at h
          exact Except.ok.inj h ▸ Yaml.value_of_readAs hread

/-! ### Widgets -/

section Widgets

variable {P : Widget → Prop}

/-- The widgets in what has been read of a record satisfy `P`. -/
def Wire.Record.All (P : Widget → Prop) : (r : Record) → r.Draft → Prop
  | .form, f => ∀ w ∈ Form.widgets f, P w
  | .page, p => ∀ w ∈ Page.widgetList p, P w
  | .section, s => ∀ w ∈ Section.widgetList s, P w
  | _, _ => True

/-- The widgets in a value satisfy `P`. -/
def Wire.Shape.All (P : Widget → Prop) : (s : Shape) → s.Value → Prop
  | .list item, xs => ∀ x ∈ xs, item.All P x
  | .record .widget, w => P w
  | .record .form, f => Record.All P .form f
  | .record .page, p => Record.All P .page p
  | .record .section, s => Record.All P .section s
  | _, _ => True

/-- There are no widgets in a blank record. -/
theorem Wire.Record.all_blank (r : Record) : r.All P r.blank := by
  cases r with
  | form | page | «section» => exact fun w hw => absurd hw List.not_mem_nil
  | _ => trivial

/-- The widgets in a record are those in its draft; one that is finished is a widget by itself. -/
theorem Wire.Record.all_finish (hP : ∀ d : WidgetDraft, P d.widget) {r : Record} {d : r.Draft}
    (hd : r.All P d) : (Shape.record r).All P (r.finish d) := by
  cases r with
  | form | page | «section» => exact hd
  | widget => exact hP d
  | _ => trivial

/-- A slot puts nothing into a record but the widgets in its value. -/
theorem Wire.Record.all_put {r : Record} {slot : Slot r.Draft} (hslot : slot ∈ r.slots)
    {x : slot.shape.Value} {d : r.Draft} (hx : slot.shape.All P x) (hd : r.All P d) :
    r.All P (slot.put x d) := by
  cases r with
  | form =>
      simp only [Record.slots, List.mem_cons, List.not_mem_nil, or_false] at hslot
      obtain rfl | rfl | rfl | rfl | rfl | rfl | rfl | rfl | rfl | rfl := hslot
      case inr.inr.inr.inr.inr.inr.inr.inr.inr =>
        intro w hw
        obtain ⟨page, hpage, hw⟩ := List.mem_flatMap.mp hw
        exact hx page hpage w hw
      all_goals exact hd
  | page =>
      simp only [Record.slots, List.mem_cons, List.not_mem_nil, or_false] at hslot
      obtain rfl | rfl | rfl := hslot
      · exact hd
      · exact hd
      · intro w hw
        obtain ⟨s, hs, hw⟩ := List.mem_flatMap.mp hw
        exact hx s hs w hw
  | «section» =>
      simp only [Record.slots, List.mem_cons, List.not_mem_nil, or_false] at hslot
      obtain rfl | rfl | rfl := hslot
      · exact hd
      · exact hd
      · exact hx
  | _ => trivial

/-- What holds of every finished widget holds of the widgets in every value. -/
def Wire.Invariant.widgets (hP : ∀ d : WidgetDraft, P d.widget) : Invariant where
  value := Shape.All P
  draft := Record.All P
  text _ := trivial
  flag _ := trivial
  count _ := trivial
  number _ := trivial
  labels _ := trivial
  free _ := trivial
  list h := h
  blank r := r.all_blank
  put hslot _ _ hx hd := Record.all_put hslot hx hd
  inlined {r _} h _ _ _ := by
    -- only a field of a group is held flat, and there is no widget in one
    cases r with
    | groupField => trivial
    | _ => cases h
  finish hd := Record.all_finish hP hd

/-- What holds of every finished widget holds of all widgets in a form that is read. -/
theorem Form.all_of_read (hP : ∀ d : WidgetDraft, P d.widget) {format : Format} {text : String}
    {f : Form} (h : Form.read format text = .ok f) : ∀ w ∈ f.widgets, P w :=
  Form.value_of_read (.widgets hP) h

end Widgets

/-! ### Labels and metadata -/

/-- The labels and the metadata of the form are sorted. -/
structure Form.Sorted (f : Form) : Prop where
  labels : ∀ ls ∈ f.labels, sortEntries ls = ls
  metadata : ∀ es ∈ f.metadata, (Json.obj es).sorted = .obj es

/-- A form in a draft is sorted. -/
def Wire.Record.Sorted : (r : Record) → r.Draft → Prop
  | .form, f => Form.Sorted f
  | _, _ => True

/-- The value is sorted, if it is of labels, of free data or a form. -/
def Wire.Shape.Sorted : (s : Shape) → s.Value → Prop
  | .labels, ls => sortEntries ls = ls
  | .free, es => (Json.obj es).sorted = .obj es
  | .record .form, f => Form.Sorted f
  | _, _ => True

/-- A slot puts a sorted value into a sorted form. -/
theorem Form.sorted_put {slot : Slot Form} (hslot : slot ∈ Record.form.slots)
    {x : slot.shape.Value} {f : Form} (hx : slot.shape.Sorted x) (hf : f.Sorted) :
    Form.Sorted (slot.put x f) := by
  simp only [Record.slots, List.mem_cons, List.not_mem_nil, or_false] at hslot
  obtain rfl | rfl | rfl | rfl | rfl | rfl | rfl | rfl | rfl | rfl := hslot
  case inr.inr.inr.inr.inr.inl => exact ⟨fun ls h => Option.some.inj h ▸ hx, hf.metadata⟩
  case inr.inr.inr.inr.inr.inr.inl => exact ⟨hf.labels, fun es h => Option.some.inj h ▸ hx⟩
  all_goals exact ⟨hf.labels, hf.metadata⟩

/-- Only the form has labels and free data, and they are sorted once they are read. -/
def Wire.Invariant.sorted : Invariant where
  value := Shape.Sorted
  draft := Record.Sorted
  text _ := trivial
  flag _ := trivial
  count _ := trivial
  number _ := trivial
  labels := sortEntries_sortEntries
  free h := Json.sorted_obj h
  list _ := trivial
  blank r := by
    cases r with
    | form => exact ⟨nofun, nofun⟩
    | _ => trivial
  put {r _} hslot _ _ hx hd := by
    cases r with
    | form => exact Form.sorted_put hslot hx hd
    | _ => trivial
  inlined {r _} h _ _ _ := by
    cases r with
    | groupField => trivial
    | _ => cases h
  finish {r _} hd := by
    cases r with
    | form => exact hd
    | _ => trivial

/-- The labels and the metadata of a form that is read are sorted. -/
theorem Form.sorted_of_read {format : Format} {text : String} {f : Form}
    (h : Form.read format text = .ok f) : f.Sorted :=
  Form.value_of_read .sorted h

end EntryForm
