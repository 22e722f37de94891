import EntryForm.Wire.Decode
import EntryForm.Proofs.Wire.Places

/-!
# Proofs — Wire — entries of a record

* `Reads r es d d'`: the entries `es`, one after another, take the draft `d` of a record to `d'`.
* `decodeEntries_eq_ok`: that is what decoding the entries of an object does, provided that no key
  of the record occurs twice.
* `Reads.under`: what a run leaves of something that only the entry under one key changes.
* `decode_record`: what every slot of a record keeps up holds of whatever is decoded as the record.
-/

namespace EntryForm.Wire

/-- Steps one after another have a result if each has one. -/
theorem bind_eq_ok {ε α β : Type} {x : Except ε α} {f : α → Except ε β} {b : β} :
    x >>= f = .ok b ↔ ∃ a, x = .ok a ∧ f a = .ok b := by
  cases x with
  | error e => exact ⟨nofun, nofun⟩
  | ok a => exact ⟨fun h => ⟨a, rfl, h⟩, fun ⟨_, ha, h⟩ => Except.ok.inj ha ▸ h⟩

/-! ### One entry -/

/-- What an entry does to a draft: a key that the record does not have is passed over, and so is a
null that stands for an absent value. -/
def readEntry (r : Record) (d : r.Draft) (e : String × Json) : Except Mismatch r.Draft :=
  match Slot.named? e.1 r.slots with
  | none => .ok d
  | some slot =>
      if slot.skips e.2 then .ok d else (decode e.2 slot.shape).map fun x => slot.put x d

/-- A slot that is found is one of the slots and has the key. -/
theorem named?_eq_some {σ : Type} {key : String} {slots : List (Slot σ)} {slot : Slot σ}
    (h : Slot.named? key slots = some slot) : slot ∈ slots ∧ slot.key = key := by
  refine ⟨List.mem_of_find?_eq_some h, ?_⟩
  have := List.find?_some h
  exact beq_iff_eq.mp this

/-- A slot passes over null exactly if null may stand for an absent value. -/
theorem skips_iff {σ : Type} {slot : Slot σ} {v : Json} :
    slot.skips v = true ↔ v = .null ∧ slot.nullable = true := by
  cases v <;> simp [Slot.skips]

variable {r : Record} {d d' : r.Draft} {key : String} {v : Json} {slot : Slot r.Draft}

theorem readEntry_unknown (h : Slot.named? key r.slots = none) :
    readEntry r d (key, v) = .ok d := by
  rw [readEntry, h]

theorem readEntry_skipped (h : Slot.named? key r.slots = some slot) (hv : slot.skips v = true) :
    readEntry r d (key, v) = .ok d := by
  simp only [readEntry, h, hv, if_true]

/-- An entry whose value is decoded puts it into the draft. -/
theorem readEntry_taken (h : Slot.named? key r.slots = some slot) (hv : slot.skips v = false)
    {x : slot.shape.Value} (hx : decode v slot.shape = .ok x) :
    readEntry r d (key, v) = .ok (slot.put x d) := by
  simp only [readEntry, h, hv, hx, Bool.false_eq_true, if_false, Except.map]

/-- An entry leaves the draft as it is, or puts the value it holds. -/
theorem readEntry_eq_ok (h : readEntry r d (key, v) = .ok d') :
    (Slot.named? key r.slots = none ∧ d' = d) ∨
    (∃ slot, Slot.named? key r.slots = some slot ∧ slot.skips v = true ∧ d' = d) ∨
    ∃ slot, Slot.named? key r.slots = some slot ∧ slot.skips v = false ∧
      ∃ x, decode v slot.shape = .ok x ∧ d' = slot.put x d := by
  cases hs : Slot.named? key r.slots with
  | none =>
      rw [readEntry_unknown hs] at h
      exact .inl ⟨rfl, (Except.ok.inj h).symm⟩
  | some slot =>
      cases hv : slot.skips v with
      | true =>
          rw [readEntry_skipped hs hv] at h
          exact .inr (.inl ⟨slot, rfl, hv, (Except.ok.inj h).symm⟩)
      | false =>
          cases hx : decode v slot.shape with
          | error e => simp [readEntry, hs, hv, hx, Except.map] at h
          | ok x =>
              rw [readEntry_taken hs hv hx] at h
              exact .inr (.inr ⟨slot, rfl, hv, x, hx, (Except.ok.inj h).symm⟩)

/-! ### Entries one after another -/

/-- The entries take one draft to the other. -/
def Reads (r : Record) (es : List (String × Json)) (d d' : r.Draft) : Prop :=
  es.foldlM (readEntry r) d = .ok d'

variable {es rest : List (String × Json)}

@[simp] theorem reads_nil : Reads r [] d d' ↔ d' = d := by
  rw [Reads, List.foldlM_nil]
  exact ⟨fun h => (Except.ok.inj h).symm, fun h => h ▸ rfl⟩

/-- The first entry is read, and then the others. -/
theorem reads_cons {e : String × Json} :
    Reads r (e :: rest) d d' ↔ ∃ m, readEntry r d e = .ok m ∧ Reads r rest m d' := by
  rw [Reads, List.foldlM_cons]
  cases readEntry r d e with
  | error e => exact ⟨nofun, nofun⟩
  | ok m => exact ⟨fun h => ⟨m, rfl, h⟩, fun ⟨_, hm, h⟩ => Except.ok.inj hm ▸ h⟩

/-- The keys among the entries that the record has. -/
def knownKeys (r : Record) (es : List (String × Json)) : List String :=
  (es.map Prod.fst).filter fun key => (Slot.named? key r.slots).isSome

section First

variable {seen : List String}

theorem decodeEntries_unknown (h : Slot.named? key r.slots = none) :
    decodeEntries ((key, v) :: rest) r seen d = decodeEntries rest r seen d := by
  rw [decodeEntries, h]

theorem decodeEntries_skipped (h : Slot.named? key r.slots = some slot) (hseen : key ∉ seen)
    (hv : slot.skips v = true) :
    decodeEntries ((key, v) :: rest) r seen d = decodeEntries rest r (key :: seen) d := by
  simp only [decodeEntries, h, List.contains_iff_mem, hseen, if_false, hv, if_true]

theorem decodeEntries_taken (h : Slot.named? key r.slots = some slot) (hseen : key ∉ seen)
    (hv : slot.skips v = false) {x : slot.shape.Value} (hx : decode v slot.shape = .ok x) :
    decodeEntries ((key, v) :: rest) r seen d =
      decodeEntries rest r (key :: seen) (slot.put x d) := by
  simp only [decodeEntries, h, List.contains_iff_mem, hseen, if_false, hv, Bool.false_eq_true, hx,
    bind, Except.bind]

end First

/-- Entries are decoded exactly if each can be read in turn and no known key comes twice. -/
theorem decodeEntries_eq_ok {seen : List String} : decodeEntries es r seen d = .ok d' ↔
    Reads r es d d' ∧ NewAfter seen (knownKeys r es) := by
  induction es generalizing seen d with
  | nil =>
      rw [decodeEntries, reads_nil]
      exact ⟨fun h => ⟨(Except.ok.inj h).symm, List.nodup_nil, nofun⟩, fun h => h.1 ▸ rfl⟩
  | cons e rest ih =>
      obtain ⟨key, v⟩ := e
      rw [reads_cons, knownKeys, List.map_cons]
      cases hs : Slot.named? key r.slots with
      | none =>
          rw [decodeEntries_unknown hs, ih, List.filter_cons_of_neg (by simp [hs]),
            readEntry_unknown hs]
          simp [knownKeys]
      | some slot =>
          rw [List.filter_cons_of_pos (by simp [hs]), newAfter_cons]
          by_cases hseen : key ∈ seen
          · simp [decodeEntries, hs, hseen]
          · cases hv : slot.skips v with
            | true =>
                rw [decodeEntries_skipped hs hseen hv, ih, readEntry_skipped hs hv]
                simp [hseen, knownKeys]
            | false =>
                cases hx : decode v slot.shape with
                | error e =>
                    simp [decodeEntries, readEntry, hs, hseen, hv, hx, Except.map, bind,
                      Except.bind]
                | ok x =>
                    rw [decodeEntries_taken hs hseen hv hx, ih, readEntry_taken hs hv hx]
                    simp [hseen, knownKeys]

/-- A key of the record that is not among the entries has no value. -/
theorem lookup_of_not_known (hs : (Slot.named? key r.slots).isSome) (h : key ∉ knownKeys r rest) :
    rest.lookup key = none := by
  rw [List.lookup_eq_none_iff]
  intro e he
  refine bne_iff_ne.mpr fun hkey => h ?_
  exact List.mem_filter.mpr ⟨List.mem_map.mpr ⟨e, he, hkey.symm⟩, hs⟩

/-- A key of the record that comes first does not come again. -/
theorem newAfter_knownKeys_cons {seen : List String} (hs : (Slot.named? key r.slots).isSome)
    (h : NewAfter seen (knownKeys r ((key, v) :: rest))) :
    rest.lookup key = none ∧ NewAfter (key :: seen) (knownKeys r rest) := by
  rw [knownKeys, List.map_cons, List.filter_cons_of_pos (by simpa using hs), newAfter_cons] at h
  refine ⟨lookup_of_not_known hs fun hk => ?_, h.2⟩
  exact h.2.2 key hk List.mem_cons_self

theorem newAfter_knownKeys_tail {seen : List String} {e : String × Json}
    (h : NewAfter seen (knownKeys r (e :: rest))) : NewAfter seen (knownKeys r rest) := by
  have : (knownKeys r rest).Sublist (knownKeys r (e :: rest)) :=
    (List.sublist_cons_self e.1 (rest.map Prod.fst)).filter _
  exact ⟨h.1.sublist this, fun key hk => h.2 key (this.subset hk)⟩

/-- Of what only the entry under one key changes, a run leaves what that entry makes of it. -/
theorem Reads.under {α : Type} {f : r.Draft → α} (hs : (Slot.named? key r.slots).isSome)
    (others : ∀ {d d' : r.Draft} {k : String} {v : Json},
      readEntry r d (k, v) = .ok d' → k ≠ key → f d' = f d)
    {seen : List String} (h : Reads r es d d') (hkeys : NewAfter seen (knownKeys r es)) :
    es.lookup key = none ∧ f d' = f d ∨ ∃ v m m', es.lookup key = some v ∧
      readEntry r m (key, v) = .ok m' ∧ f m = f d ∧ f d' = f m' := by
  induction es generalizing seen d with
  | nil =>
      obtain rfl := reads_nil.mp h
      exact .inl ⟨rfl, rfl⟩
  | cons e rest ih =>
      obtain ⟨k, v⟩ := e
      obtain ⟨m, hm, hrest⟩ := reads_cons.mp h
      by_cases hk : k = key
      · -- the key does not come again, so the rest changes nothing
        subst hk
        obtain ⟨hlast, htail⟩ := newAfter_knownKeys_cons hs hkeys
        obtain ⟨-, same⟩ | ⟨w, _, _, hw, -⟩ := ih hrest htail
        · exact .inr ⟨v, d, m, List.lookup_cons_self, hm, rfl, same⟩
        · rw [hlast] at hw
          cases hw
      · rw [lookup_cons_of_ne (Ne.symm hk), ← others hm hk]
        exact ih hrest (newAfter_knownKeys_tail hkeys)

/-! ### What decoding keeps up -/

/-- Each element of a list is decoded from an item. -/
theorem mem_of_decodeList {s : Shape} {items : List Json} {xs : List s.Value}
    (h : decodeList items s = .ok xs) : ∀ x ∈ xs, ∃ v, decode v s = .ok x := by
  induction items generalizing xs with
  | nil =>
      rw [decodeList] at h
      obtain rfl := Except.ok.inj h
      nofun
  | cons v rest ih =>
      rw [decodeList] at h
      cases hv : decode v s with
      | error e => rw [hv] at h; cases h
      | ok y =>
          cases hrest : decodeList rest s with
          | error e => rw [hv, hrest] at h; cases h
          | ok ys =>
              rw [hv, hrest] at h
              obtain rfl := Except.ok.inj h
              intro x hx
              obtain rfl | hx := List.mem_cons.mp hx
              · exact ⟨v, hv⟩
              · exact ih hrest x hx

theorem mem_of_decode_list {s : Shape} {v : Json} {xs : List s.Value}
    (h : decode v (.list s) = .ok xs) : ∀ x ∈ xs, ∃ u, decode u s = .ok x := by
  cases v with
  | arr items =>
      rw [decode] at h
      exact mem_of_decodeList h
  | _ => cases h

section Keeps

variable {P : r.Draft → Prop}

/-- What every slot keeps up, a run over entries keeps up. -/
theorem Reads.keeps
    (hput : ∀ slot ∈ r.slots, ∀ v x d, decode v slot.shape = .ok x → P d → P (slot.put x d))
    {es : List (String × Json)} {d d' : r.Draft} (h : Reads r es d d') (hd : P d) : P d' := by
  induction es generalizing d with
  | nil => exact reads_nil.mp h ▸ hd
  | cons e rest ih =>
      obtain ⟨m, hm, hrest⟩ := reads_cons.mp h
      refine ih hrest ?_
      obtain ⟨-, rfl⟩ | ⟨-, -, -, rfl⟩ | ⟨slot, hs, -, x, hx, rfl⟩ := readEntry_eq_ok hm
      · exact hd
      · exact hd
      · exact hput slot (named?_eq_some hs).1 _ x d hx hd

/-- What every slot keeps up is kept up by the items of an array. -/
theorem decodeItems_keeps
    (hput : ∀ slot ∈ r.slots, ∀ v x d, decode v slot.shape = .ok x → P d → P (slot.put x d))
    {items : List Json} {length : Nat} {slots : List (Slot r.Draft)} (hslots : slots ⊆ r.slots)
    {d d' : r.Draft} (h : decodeItems items length r slots d = .ok d') (hd : P d) : P d' := by
  induction items generalizing slots d with
  | nil =>
      rw [decodeItems] at h
      exact Except.ok.inj h ▸ hd
  | cons v rest ih =>
      cases slots with
      | nil => rw [decodeItems] at h; cases h
      | cons slot slots =>
          have hrest : slots ⊆ r.slots := fun s hs => hslots (List.mem_cons_of_mem _ hs)
          rw [decodeItems] at h
          split at h
          · exact ih hrest h hd
          · cases hx : decode v slot.shape with
            | error e => rw [hx] at h; cases h
            | ok x =>
                rw [hx] at h
                exact ih hrest h (hput slot (hslots List.mem_cons_self) v x d hx hd)

/-- What holds of the defaults of a record and is kept up by every slot holds of what is decoded. -/
theorem decode_record (hr : r.inlined = none) (hblank : P r.blank)
    (hput : ∀ slot ∈ r.slots, ∀ v x d, decode v slot.shape = .ok x → P d → P (slot.put x d))
    {v : Json} {y : r.Result} (h : decode v (.record r) = .ok y) : ∃ d, P d ∧ y = r.finish d := by
  cases v with
  | obj entries =>
      rw [decode] at h
      cases hd : decodeEntries entries r [] r.blank with
      | error e => rw [hd] at h; cases h
      | ok d =>
          simp only [hd, hr, bind, Except.bind] at h
          exact ⟨d, (decodeEntries_eq_ok.mp hd).1.keeps hput hblank, (Except.ok.inj h).symm⟩
  | arr items =>
      simp only [decode, hr] at h
      cases hd : decodeItems items items.length r r.slots r.blank with
      | error e => rw [hd] at h; cases h
      | ok d =>
          rw [hd] at h
          exact ⟨d, decodeItems_keeps hput (List.Subset.refl _) hd hblank, (Except.ok.inj h).symm⟩
  | _ => cases h

end Keeps

end EntryForm.Wire
