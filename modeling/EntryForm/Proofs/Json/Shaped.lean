import EntryForm.Proofs.Json.Printed
import EntryForm.Proofs.Wire.Exact
import EntryForm.Proofs.Wire.Grammar

/-!
# Proofs — Json — values of a shape are read as they were printed

The reader of a shape does with the text of a value what `decode` does with the value, if the value
is exactly of the shape and holds labels and free data as the reader leaves them, which is sorted.

* `ShapedBack s v`: wherever the value is printed, it is read as it is decoded in the shape.
* `ShapedBack.text` and so on: each shape has this, lists and records if what is in them does.
* `readAs_pretty`: so a whole text is read as the value that it was printed of is decoded.
-/

namespace EntryForm.Json

open Wire Cursor

/-! ### Labels -/

section Labels

variable {es : List (String × Json)}

/-- An object of texts holds the labels that it is decoded to. -/
theorem eq_map_of_decodeLabels {labels : List (String × String)}
    (h : decodeLabels es = .ok labels) : es = labels.map fun l => (l.1, .str l.2) := by
  induction es generalizing labels with
  | nil => exact Except.ok.inj h ▸ rfl
  | cons e rest ih =>
      obtain ⟨key, v⟩ := e
      cases v with
      | str text =>
          rw [decodeLabels] at h
          cases hrest : decodeLabels rest with
          | error m => rw [hrest] at h; cases h
          | ok others =>
              rw [hrest] at h
              obtain rfl := Except.ok.inj h
              rw [List.map_cons, ← ih hrest]
      | _ => cases h

/-- The labels of an object that is sorted are. -/
theorem sortEntries_of_decodeLabels {labels : List (String × String)}
    (h : decodeLabels es = .ok labels) (sorted : (Json.obj es).sorted = .obj es) :
    sortEntries labels = labels := by
  have texts := eq_map_of_decodeLabels h
  have inside : sortedEntries es = es := sortedEntries_eq_self fun e he => by
    rw [texts] at he
    obtain ⟨l, -, rfl⟩ := List.mem_map.mp he
    rfl
  rw [Json.sorted, inside, texts, sortEntries_map Json.str] at sorted
  refine List.map_injective_iff.mpr (fun a b same => ?_) (Json.obj.inj sorted)
  obtain ⟨key, text⟩ := Prod.mk.inj same
  exact Prod.ext key (Json.str.inj text)

end Labels

/-! ### Values without brackets -/

section Scalars

variable {k : Cursor} {tail : List Char}

/-- A number is taken up where it is printed. -/
theorem readNumeric_printed {α : Type} {expected : String} {take : Json → Except Mismatch α}
    {cs : List Char} {n : Number} {x : α} (number : IsNumber cs n) (taken : take n.toJson = .ok x)
    (ends : Ends tail) (hk : k.skipBlanks.rest = cs ++ tail) :
    Reaches (readNumeric expected take k) x tail := by
  obtain ⟨c, rest, hc, begins⟩ := number.begins
  have read := number.read ends hk
  rw [hc] at hk
  rw [readSigned, hk] at read
  rw [readNumeric]
  dsimp only
  rw [hk]
  obtain rfl | digit := begins
  · refine read.bind fun k hk => ?_
    dsimp only
    rw [taken]
    exact reaches_ok hk
  · have other (d : Char) (hd : d.isDigit = false) : c ≠ d := fun same => by
      rw [same, hd] at digit
      cases digit
    simp only [List.cons_append, List.cons.injEq, other '-' rfl, false_and, IsEmpty.forall_iff,
      implies_true, digit, if_true] at read ⊢
    refine read.bind fun k hk => ?_
    dsimp only
    rw [taken]
    exact reaches_ok hk

end Scalars

section Shapes

variable {s : Shape} {v : Json} {fuel depth level : Nat} {first : Bool} {k : Cursor}
  {tail : List Char}

/-- Wherever the value is printed it is read as it is decoded in the shape, if there are levels for
it and fuel for its text. -/
structure ShapedBack (s : Shape) (v : Json) : Prop where
  read : ∀ {x : s.Value} {fuel depth level : Nat} {k : Cursor} {tail : List Char},
    decode v s = .ok x → v.levels < depth → (prettyAt level v).toList.length ≤ fuel →
    Ends tail → k.skipBlanks.rest = (prettyAt level v).toList ++ tail →
    Reaches (readShape fuel depth s k) x tail

/-- There is fuel for what is printed of a value, so the value is read if it is with one more unit
of fuel. -/
theorem ShapedBack.of_step (h : v.Readable)
    (step : ∀ {x : s.Value} {fuel depth level : Nat} {k : Cursor} {tail : List Char},
      decode v s = .ok x → v.levels < depth → (prettyAt level v).toList.length ≤ fuel + 1 →
      Ends tail → k.skipBlanks.rest = (prettyAt level v).toList ++ tail →
      Reaches (readShape (fuel + 1) depth s k) x tail) : ShapedBack s v := by
  refine ⟨fun {x fuel depth level k tail} hx hd hf ends hk => ?_⟩
  obtain ⟨fuel, rfl⟩ := Nat.exists_eq_add_of_lt (Nat.lt_of_lt_of_le (h.length_pos level) hf)
  rw [Nat.zero_add] at hf ⊢
  exact step hx hd hf ends hk

/-- A text is read where it is printed. -/
theorem readText_printed {t : String}
    (hk : k.skipBlanks.rest = (prettyAt level (.str t)).toList ++ tail) :
    Reaches (readText k) t tail := by
  rw [prettyAt, toList_writeString, List.cons_append, List.append_assoc] at hk
  rw [readText, hk]
  exact readString_printed (rest_next hk)

/-- A text is read as itself. -/
theorem ShapedBack.text (t : String) : ShapedBack .text (.str t) := by
  refine .of_step (.str t) fun hx hd hf ends hk => ?_
  obtain rfl := Except.ok.inj hx
  rw [readShape]
  exact readText_printed hk

/-- A truth value is read as itself. -/
theorem ShapedBack.flag (b : Bool) : ShapedBack .flag (.bool b) := by
  refine .of_step (.bool b) fun hx hd hf ends hk => ?_
  obtain rfl := Except.ok.inj hx
  rw [prettyAt] at hk
  rw [readShape, readFlag]
  cases b with
  | true =>
      rw [hk]
      exact (readWord_printed (rest_next hk)).bind fun k hk => reaches_ok hk
  | false =>
      rw [hk]
      exact (readWord_printed (rest_next hk)).bind fun k hk => reaches_ok hk

/-- A count is read as an integer of 64 bits that is one. -/
theorem ShapedBack.count {n : Int} (h : (Json.int n).Readable) : ShapedBack .count (.int n) := by
  refine .of_step h fun hx hd hf ends hk => ?_
  rw [prettyAt] at hk
  rw [readShape]
  cases h with
  | int low high => exact readNumeric_printed (isNumber_int low high) hx ends hk

/-- A bound is read as a floating point number that returns. -/
theorem ShapedBack.number {x : Float} (h : (Json.float x).Readable) :
    ShapedBack .number (.float x) := by
  refine .of_step h fun hx hd hf ends hk => ?_
  rw [prettyAt] at hk
  rw [readShape]
  cases h with
  | float returns => exact readNumeric_printed (isNumber_float returns) hx ends hk

/-- The members of an object of texts are read as its labels. -/
theorem readLabels_printed {labels : List (String × String)}
    (hf : (enclosed level '}' first
      (prettyEntries (level + 1) (labels.map fun l => (l.1, .str l.2)))).length ≤ fuel)
    (hk : k.rest = enclosed level '}' first
      (prettyEntries (level + 1) (labels.map fun l => (l.1, .str l.2))) ++ tail) :
    Reaches (readLabels fuel first k) labels ('}' :: tail) := by
  induction labels generalizing fuel first k with
  | nil =>
      obtain ⟨fuel, rfl⟩ := Nat.exists_eq_add_of_lt (Nat.lt_of_lt_of_le length_enclosed_nil hf)
      rw [List.map_nil, prettyEntries, enclosed, List.append_assoc] at hk
      rw [readLabels]
      exact (hasKey_end isBlank_lastLine hk).bind fun k hk => reaches_ok hk
  | cons label rest ih =>
      obtain ⟨key, text⟩ := label
      rw [List.map_cons] at hf hk
      have long := Nat.lt_of_lt_of_le
        (length_enclosed_entries key (.str text) (rest.map fun l => (l.1, .str l.2))) hf
      obtain ⟨fuel, rfl⟩ := Nat.exists_eq_add_of_lt long
      rw [readLabels]
      refine (hasKey_printed hk).bind fun k hk => ?_
      refine (readString_printed (rest_next hk)).bind fun k hk => ?_
      refine (afterColon_printed hk).bind fun k hk => ?_
      have here := skipBlanks_printed (.str text) [' '] (by simp [isBlank]) hk
      refine (readText_printed here).bind fun k hk => ?_
      exact (ih (by omega) hk).bind fun k hk => reaches_ok hk

/-- Labels that are sorted are read as they are decoded. -/
theorem ShapedBack.labels {es : List (String × Json)} (h : (Json.obj es).Readable)
    (sorted : (Json.obj es).sorted = .obj es) : ShapedBack .labels (.obj es) := by
  refine .of_step h fun {x fuel depth level k tail} hx hd hf ends hk => ?_
  have labels : sortEntries x = x := sortEntries_of_decodeLabels hx sorted
  obtain rfl := eq_map_of_decodeLabels hx
  rw [levels] at hd
  rw [toList_prettyAt_obj] at hf hk
  rw [readShape]
  dsimp only
  rw [hk]
  refine (enter_printed (by omega) hk).bind fun k hk => ?_
  refine (readLabels_printed (Nat.le_of_succ_le_succ hf) hk).bind fun k hk => ?_
  refine (endObject_printed hk).bind fun k hk => ?_
  exact ⟨k, congrArg (fun ls => Except.ok (ls, k)) labels, hk⟩

/-- Free data that is sorted is read as it is. -/
theorem ShapedBack.free {es : List (String × Json)} (h : (Json.obj es).Readable)
    (sorted : (Json.obj es).sorted = .obj es) : ShapedBack .free (.obj es) := by
  refine .of_step h fun hx hd hf ends hk => ?_
  obtain rfl := Except.ok.inj hx
  rw [levels] at hd
  rw [toList_prettyAt_obj] at hf hk
  rw [readShape]
  dsimp only
  rw [hk]
  cases h with
  | obj each =>
      refine (enter_printed (by omega) hk).bind fun k hk => ?_
      have back := fun e he => And.intro (each e he) (each e he).readBack
      refine (readAnyMembers_printed back (by omega) (Nat.le_of_succ_le_succ hf) hk).bind
        fun k hk => ?_
      refine (endObject_printed hk).bind fun k hk => ?_
      exact ⟨k, congrArg (fun es => Except.ok (es, k)) (Json.obj.inj sorted), hk⟩

/-- The elements of a list are read if each is. -/
theorem readElements_printed {items : List Json} {xs : List s.Value}
    (each : ∀ v ∈ items, v.Readable ∧ ShapedBack s v) (h : decodeList items s = .ok xs)
    (hd : levelsItems items < depth)
    (hf : (enclosed level ']' first (prettyItems (level + 1) items)).length ≤ fuel)
    (hk : k.rest = enclosed level ']' first (prettyItems (level + 1) items) ++ tail) :
    Reaches (readElements fuel depth s first k) xs (']' :: tail) := by
  induction items generalizing fuel first k xs with
  | nil =>
      obtain ⟨fuel, rfl⟩ := Nat.exists_eq_add_of_lt (Nat.lt_of_lt_of_le length_enclosed_nil hf)
      obtain rfl := Except.ok.inj h
      rw [prettyItems, enclosed, List.append_assoc] at hk
      rw [readElements]
      exact (hasElement_end isBlank_lastLine hk).bind fun k hk => reaches_ok hk
  | cons v rest ih =>
      obtain ⟨⟨readable, back⟩, others⟩ := List.forall_mem_cons.mp each
      have long := Nat.lt_of_lt_of_le (length_enclosed_items v rest) hf
      obtain ⟨fuel, rfl⟩ := Nat.exists_eq_add_of_lt long
      rw [decodeList] at h
      obtain ⟨x, hx, h⟩ := bind_eq_ok.mp h
      obtain ⟨ys, hys, h⟩ := bind_eq_ok.mp h
      obtain rfl := Except.ok.inj h
      rw [levelsItems] at hd
      rw [readElements]
      refine (hasElement_printed readable hk).bind fun k hk => ?_
      have here := skipBlanks_printed readable [] (List.forall_mem_nil _) hk
      refine (back.read hx (by omega) (by omega) ends_enclosed here).bind fun k hk => ?_
      exact (ih others hys (by omega) (by omega) hk).bind fun k hk => reaches_ok hk

/-- A list is read as it is decoded. -/
theorem ShapedBack.list {items : List Json}
    (each : ∀ v ∈ items, v.Readable ∧ ShapedBack s v) : ShapedBack (.list s) (.arr items) := by
  refine .of_step (.arr fun v hv => (each v hv).1) fun hx hd hf ends hk => ?_
  rw [levels] at hd
  rw [toList_prettyAt_arr] at hf hk
  rw [decode] at hx
  rw [readShape]
  dsimp only
  rw [hk]
  refine (enter_printed (by omega) hk).bind fun k hk => ?_
  refine (readElements_printed each hx (by omega) (Nat.le_of_succ_le_succ hf) hk).bind
    fun k hk => ?_
  exact (endList_printed hk).bind fun k hk => reaches_ok hk

end Shapes

/-! ### Records -/

section Records

variable {r : Record} {d d' : r.Draft} {seen : List String} {es : List (String × Json)}
  {fuel depth level : Nat} {first : Bool} {k : Cursor} {tail : List Char}

/-- Null is not decoded in any shape. -/
theorem decode_null_ne_ok {s : Shape} {x : s.Value} : decode .null s ≠ .ok x := by
  cases s <;> nofun

/-- The value of a slot is read as it is decoded, unless it is passed over. -/
theorem readSlot_printed {key : String} {v : Json} {slot : Slot r.Draft}
    (named : Slot.named? key r.slots = some slot) (h : readEntry r d (key, v) = .ok d')
    (readable : v.Readable) (back : ShapedBack slot.shape v) (hd : v.levels < depth)
    (hf : (prettyAt level v).toList.length < fuel) (ends : Ends tail)
    (hk : k.skipBlanks.rest = (prettyAt level v).toList ++ tail) :
    Reaches (readSlot fuel depth r slot d k) d' tail := by
  obtain ⟨fuel, rfl⟩ := Nat.exists_eq_add_of_lt (Nat.lt_of_le_of_lt (Nat.zero_le _) hf)
  rw [Nat.zero_add] at hf ⊢
  rw [readSlot]
  dsimp only
  obtain ⟨unknown, -⟩ | ⟨other, found, skips, rfl⟩ | ⟨other, found, taken, x, hx, rfl⟩ :=
    readEntry_eq_ok h
  · rw [named] at unknown
    cases unknown
  · obtain rfl := Option.some.inj (named.symm.trans found)
    obtain ⟨rfl, nullable⟩ := skips_iff.mp skips
    rw [prettyAt] at hk
    rw [nullable, hk]
    exact (readWord_printed (rest_next hk)).bind fun k hk => reaches_ok hk
  · obtain rfl := Option.some.inj (named.symm.trans found)
    obtain ⟨c, cs, text, visible, -, null⟩ := readable.begins level
    have present : c ≠ 'n' := null fun same => decode_null_ne_ok (same ▸ hx)
    have again : k.skipBlanks.skipBlanks.rest = (prettyAt level v).toList ++ tail :=
      skipBlanks_printed readable [] (List.forall_mem_nil _) hk
    rw [text] at hk
    rw [hk]
    split
    · next _ null => exact absurd (List.cons.inj null).1 present
    · exact (back.read hx hd (by omega) ends again).bind fun k hk => reaches_ok hk

/-- The members of a record are read as they are decoded, if all of them are known. -/
theorem readMembers_printed (known : ∀ e ∈ es, (Slot.named? e.1 r.slots).isSome = true)
    (each : ∀ e ∈ es, e.2.Readable ∧
      ∀ slot, Slot.named? e.1 r.slots = some slot → ShapedBack slot.shape e.2)
    (h : Reads r es d d') (new : NewAfter seen (knownKeys r es)) (hd : levelsEntries es < depth)
    (hf : (enclosed level '}' first (prettyEntries (level + 1) es)).length ≤ fuel)
    (hk : k.rest = enclosed level '}' first (prettyEntries (level + 1) es) ++ tail) :
    Reaches (readMembers fuel depth r seen d first k) d' ('}' :: tail) := by
  induction es generalizing fuel first k seen d with
  | nil =>
      obtain ⟨fuel, rfl⟩ := Nat.exists_eq_add_of_lt (Nat.lt_of_lt_of_le length_enclosed_nil hf)
      obtain rfl := reads_nil.mp h
      rw [prettyEntries, enclosed, List.append_assoc] at hk
      rw [readMembers]
      exact (hasKey_end isBlank_lastLine hk).bind fun k hk => reaches_ok hk
  | cons e rest ih =>
      obtain ⟨key, v⟩ := e
      obtain ⟨⟨readable, back⟩, others⟩ := List.forall_mem_cons.mp each
      obtain ⟨first, rest_known⟩ := List.forall_mem_cons.mp known
      obtain ⟨slot, named⟩ := Option.isSome_iff_exists.mp first
      obtain ⟨m, hm, hrest⟩ := reads_cons.mp h
      dsimp only at readable back named
      have long := Nat.lt_of_lt_of_le (length_enclosed_entries key v rest) hf
      obtain ⟨fuel, rfl⟩ := Nat.exists_eq_add_of_lt long
      rw [levelsEntries] at hd
      rw [knownKeys, List.map_cons, List.filter_cons_of_pos (by simpa using first),
        newAfter_cons] at new
      rw [readMembers]
      refine (hasKey_printed hk).bind fun k hk => ?_
      refine (readString_printed (rest_next hk)).bind fun k hk => ?_
      dsimp only
      rw [named]
      dsimp only
      rw [if_neg (by simpa using new.1)]
      refine (afterColon_printed hk).bind fun k hk => ?_
      have here := skipBlanks_printed readable [' '] (by simp [isBlank]) hk
      refine (readSlot_printed named hm readable (back slot named) (by omega) (by omega)
        ends_enclosed here).bind fun k hk => ?_
      exact ih rest_known others hrest new.2 (by omega) (by omega) hk

/-- A record is read as it is decoded, if all its keys are known. -/
theorem ShapedBack.record (plain : r.inlined = none)
    (known : ∀ e ∈ es, (Slot.named? e.1 r.slots).isSome = true)
    (each : ∀ e ∈ es, e.2.Readable ∧
      ∀ slot, Slot.named? e.1 r.slots = some slot → ShapedBack slot.shape e.2) :
    ShapedBack (.record r) (.obj es) := by
  refine .of_step (.obj fun e he => (each e he).1) fun hx hd hf ends hk => ?_
  rw [levels] at hd
  rw [toList_prettyAt_obj] at hf hk
  rw [decode] at hx
  obtain ⟨own, hown, hx⟩ := bind_eq_ok.mp hx
  simp only [plain] at hx
  obtain rfl := Except.ok.inj hx
  obtain ⟨reads, new⟩ := decodeEntries_eq_ok.mp hown
  rw [readShape]
  dsimp only
  rw [hk]
  refine (enter_printed (by omega) hk).bind fun k hk => ?_
  simp only [plain]
  refine (readMembers_printed known each reads new (by omega) (Nat.le_of_succ_le_succ hf) hk).bind
    fun k hk => ?_
  exact (endObject_printed hk).bind fun k hk => reaches_ok hk

/-- The entries that are not a record's own. -/
def others (r : Record) (es : List (String × Json)) : List (String × Json) :=
  es.filter fun e => (Slot.named? e.1 r.slots).isNone

/-- The members of a record that holds another one flat are read as they are decoded, and those
that are not its own as any values. -/
theorem readFlatMembers_printed (each : ∀ e ∈ es, e.2.Readable ∧
      ∀ slot, Slot.named? e.1 r.slots = some slot → ShapedBack slot.shape e.2)
    (h : Reads r es d d') (new : NewAfter seen (knownKeys r es)) (hd : levelsEntries es < depth)
    (hf : (enclosed level '}' first (prettyEntries (level + 1) es)).length ≤ fuel)
    (hk : k.rest = enclosed level '}' first (prettyEntries (level + 1) es) ++ tail) :
    Leaves (readFlatMembers fuel depth r seen d first k)
      (fun k => (d', sortedEntries (others r es), k)) ('}' :: tail) := by
  induction es generalizing fuel first k seen d with
  | nil =>
      obtain ⟨fuel, rfl⟩ := Nat.exists_eq_add_of_lt (Nat.lt_of_lt_of_le length_enclosed_nil hf)
      obtain rfl := reads_nil.mp h
      rw [prettyEntries, enclosed, List.append_assoc] at hk
      rw [readFlatMembers]
      exact (hasKey_end isBlank_lastLine hk).bind fun k hk => ⟨k, rfl, hk⟩
  | cons e rest ih =>
      obtain ⟨key, v⟩ := e
      obtain ⟨⟨readable, back⟩, each⟩ := List.forall_mem_cons.mp each
      obtain ⟨m, hm, hrest⟩ := reads_cons.mp h
      dsimp only at readable back
      have long := Nat.lt_of_lt_of_le (length_enclosed_entries key v rest) hf
      obtain ⟨fuel, rfl⟩ := Nat.exists_eq_add_of_lt long
      rw [levelsEntries] at hd
      rw [readFlatMembers]
      refine (hasKey_printed hk).bind fun k hk => ?_
      refine (readString_printed (rest_next hk)).bind fun k hk => ?_
      dsimp only
      cases named : Slot.named? key r.slots with
      | none =>
          rw [readEntry_unknown named] at hm
          obtain rfl := Except.ok.inj hm
          rw [knownKeys, List.map_cons, List.filter_cons_of_neg (by simp [named])] at new
          rw [others, List.filter_cons_of_pos (by simp [named]), sortedEntries]
          refine (afterColon_printed hk).bind fun k hk => ?_
          have here := skipBlanks_printed readable [' '] (by simp [isBlank]) hk
          refine (readable.readBack.read (by omega) (by omega) ends_enclosed here).bind
            fun k hk => ?_
          exact (ih each hrest new (by omega) (by omega) hk).bind fun k hk => ⟨k, rfl, hk⟩
      | some slot =>
          rw [knownKeys, List.map_cons, List.filter_cons_of_pos (by simp [named]),
            newAfter_cons] at new
          rw [others, List.filter_cons_of_neg (by simp [named])]
          dsimp only
          rw [if_neg (by simpa using new.1)]
          refine (afterColon_printed hk).bind fun k hk => ?_
          have here := skipBlanks_printed readable [' '] (by simp [isBlank]) hk
          refine (readSlot_printed named hm readable (back slot named) (by omega) (by omega)
            ends_enclosed here).bind fun k hk => ?_
          exact ih each hrest new.2 (by omega) (by omega) hk

/-- Entries that a record does not know may be left out before it is decoded. -/
theorem decodeEntries_filter {kept : String × Json → Bool}
    (unknown : ∀ e ∈ es, kept e = false → Slot.named? e.1 r.slots = none) :
    decodeEntries (es.filter kept) r seen d = decodeEntries es r seen d := by
  induction es generalizing seen d with
  | nil => rfl
  | cons e rest ih =>
      obtain ⟨key, v⟩ := e
      obtain ⟨first, unknown⟩ := List.forall_mem_cons.mp unknown
      cases keep : kept (key, v) with
      | false =>
          rw [List.filter_cons_of_neg (by simp [keep]), decodeEntries_unknown (first keep),
            ih unknown]
      | true =>
          rw [List.filter_cons_of_pos keep]
          simp only [decodeEntries, ih unknown]

/-- A record that holds another one flat is read as it is decoded, if the entries that are not its
own are sorted. -/
theorem ShapedBack.inlined {flat : Inlined r.Draft} (hr : r.inlined = some flat)
    (each : ∀ e ∈ es, e.2.Readable ∧
      ∀ slot, Slot.named? e.1 r.slots = some slot → ShapedBack slot.shape e.2)
    (sorted : ∀ e ∈ es, Slot.named? e.1 r.slots = none → e.2.sorted = e.2) :
    ShapedBack (.record r) (.obj es) := by
  have same : sortedEntries (others r es) = others r es := sortedEntries_eq_self fun e he => by
    obtain ⟨he, unknown⟩ := List.mem_filter.mp he
    exact sorted e he (Option.isNone_iff_eq_none.mp unknown)
  have left {seen : List String} {d : flat.record.Draft} :
      decodeEntries (others r es) flat.record seen d = decodeEntries es flat.record seen d := by
    refine decodeEntries_filter fun e he own => ?_
    have own : Slot.named? e.1 r.slots ≠ none := fun none => by simp [none] at own
    exact (named?_eq_none_or hr e.1).resolve_left own
  refine .of_step (.obj fun e he => (each e he).1) fun hx hd hf ends hk => ?_
  rw [levels] at hd
  rw [toList_prettyAt_obj] at hf hk
  rw [decode] at hx
  obtain ⟨own, hown, hx⟩ := bind_eq_ok.mp hx
  simp only [hr] at hx
  obtain ⟨inner, hinner, hx⟩ := bind_eq_ok.mp hx
  obtain rfl := Except.ok.inj hx
  obtain ⟨reads, new⟩ := decodeEntries_eq_ok.mp hown
  rw [readShape]
  dsimp only
  rw [hk]
  refine (enter_printed (by omega) hk).bind fun k hk => ?_
  simp only [hr]
  refine (readFlatMembers_printed each reads new (by omega) (Nat.le_of_succ_le_succ hf) hk).bind
    fun k hk => ?_
  rw [same, left, hinner]
  exact (endObject_printed hk).bind fun k hk => reaches_ok hk

end Records

/-! ### Whole texts -/

/-- Only records are to be sorted in a value that is exactly of a shape, if its labels and its free
data are. -/
theorem sorted_of_recordless {n : Bool} {s : Shape} {v : Json}
    (h : Exact (fun v => v.sorted = v) n s v) (plain : s.recordless = true) : v.sorted = v := by
  induction h with
  | labels texts held => exact held
  | free held => exact held
  | list each ih =>
      rw [sorted, sortedItems_eq_map]
      exact congrArg arr ((List.map_congr_left fun v hv => ih v hv plain).trans (List.map_id _))
  | record known each => cases plain
  | null | text | flag | count | number => rfl

/-- A value that is exactly of a shape is read as it is decoded. -/
theorem shapedBack_of_exact {n : Bool} {s : Shape} {v : Json}
    (h : Exact (fun v => v.sorted = v) n s v) (readable : v.Readable) : ShapedBack s v := by
  induction h with
  | null s => exact ⟨fun hx => absurd hx decode_null_ne_ok⟩
  | text t => exact .text t
  | flag b => exact .flag b
  | count c => exact .count readable
  | number finite => exact .number readable
  | labels texts held => exact .labels readable held
  | free held => exact .free readable held
  | list each ih =>
      cases readable with
      | arr readable => exact .list fun v hv => ⟨readable v hv, ih v hv (readable v hv)⟩
  | @record n r es known each ih =>
      cases readable with
      | obj readable =>
          have own (e : String × Json) (he : e ∈ es) : e.2.Readable ∧
              ∀ slot, Slot.named? e.1 r.slots = some slot → ShapedBack slot.shape e.2 :=
            ⟨readable e he, fun slot named =>
              ih e he slot.shape slot.nullable (lookup_keys_own named) (readable e he)⟩
          cases inlined : r.inlined with
          | none =>
              refine .record inlined (fun e he => ?_) own
              have found := known e he
              rwa [lookup_keys_plain inlined, Option.isSome_map] at found
          | some flat =>
              refine .inlined inlined own fun e he unknown => ?_
              -- the entry is one of the record that is held flat, which holds no records
              have found := known e he
              rw [lookup_keys_inlined inlined, unknown, Option.map_none, Option.none_or,
                Option.isSome_map] at found
              obtain ⟨slot, named⟩ := Option.isSome_iff_exists.mp found
              refine sorted_of_recordless (each e he slot.shape slot.nullable ?_)
                (Record.recordless_inlined inlined (named?_eq_some named).1)
              rw [lookup_keys_inlined inlined, unknown, named]
              rfl

/-- A text that is printed of a value that is exactly of a shape is read as the value is decoded, if
its numbers are read back and not too many brackets are open at once. -/
theorem readAs_pretty {n : Bool} {s : Shape} {v : Json} {x : s.Value}
    (h : Exact (fun v => v.sorted = v) n s v) (hx : decode v s = .ok x) (readable : v.Readable)
    (hd : v.levels < depthLimit) : readAs s v.pretty = .ok x := by
  obtain ⟨k, read, hk⟩ := (shapedBack_of_exact h readable).read hx hd
    (length_le_fuelFor v.pretty) ends_nil (start_printed readable)
  exact bind_eq_ok.mpr ⟨_, read, bind_eq_ok.mpr ⟨_, atEnd_printed hk, rfl⟩⟩

end EntryForm.Json
