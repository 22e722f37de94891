import Mathlib.Data.List.Induction
import Mathlib.Data.List.Count
import Mathlib.Data.List.Nodup
import Mathlib.Data.List.Forall2
import EntryForm.Rules.Unique

/-!
# Proofs — Rules — repeated widget identifiers

`Rules.placesById` grows one group for each identifier while it passes over the occurrences, and
finds the group of an identifier in a table of positions.

* `Groups.Holds`: the groups are those of the distinct identifiers, in the order of their first
  occurrences, each with all the places of its identifier in order (`placesOf`); and the table has
  for each identifier the position of its group.  One more occurrence keeps this
  (`Groups.Holds.add`), so that it is so of every list (`groups_holds`, `placesById_eq`).
* `repeatedWidgets_eq_nil`: nothing is reported exactly if the non-empty identifiers differ.
* `mem_repeatedWidgets`: a report stands at the place of an occurrence.
* `repeatedWidgets_once`: there is one report for each identifier that occurs again, in the order
  of the first occurrences, at the second one, and it tells them all.
-/

namespace EntryForm.Rules

/-- The places at which an identifier occurs. -/
def placesOf (id : String) (os : List Occurrence) : List Path :=
  (os.filter (·.id = id)).map Occurrence.path

/-- One more occurrence adds its place to those of its identifier. -/
theorem placesOf_concat (id : String) (os : List Occurrence) (o : Occurrence) :
    placesOf id (os ++ [o]) = if o.id = id then placesOf id os ++ [o.path] else placesOf id os := by
  by_cases h : o.id = id <;> simp [placesOf, h]

/-- An identifier that does not occur has no places. -/
theorem placesOf_eq_nil {id : String} {os : List Occurrence} (h : id ∉ os.map Occurrence.id) :
    placesOf id os = [] := by
  rw [placesOf, List.map_eq_nil_iff, List.filter_eq_nil_iff]
  exact fun o ho e => h (List.mem_map.mpr ⟨o, ho, by simpa using e⟩)

/-- An identifier has as many places as it occurs. -/
theorem length_placesOf (id : String) (os : List Occurrence) :
    (placesOf id os).length = (os.map Occurrence.id).count id := by
  induction os with
  | nil => rfl
  | cons o os ih =>
      rw [placesOf, List.map_cons, List.count_cons, ← ih, placesOf]
      by_cases h : o.id = id <;> simp [h]

/-! ### The groups -/

/-- One more identifier is listed unless it is already. -/
theorem eraseDups_concat (ids : List String) (id : String) :
    (ids ++ [id]).eraseDups = if id ∈ ids then ids.eraseDups else ids.eraseDups ++ [id] := by
  by_cases h : id ∈ ids <;> simp [List.eraseDups_append, List.removeAll, h, List.eraseDups_cons]

/-- Each identifier is listed once. -/
theorem nodup_eraseDups (ids : List String) : ids.eraseDups.Nodup := by
  induction ids using List.reverseRecOn with
  | nil => exact List.nodup_nil
  | append_singleton ids id ih =>
      rw [eraseDups_concat]
      split
      · exact ih
      · next h =>
        refine List.nodup_append.mpr ⟨ih, List.nodup_singleton id, fun a ha b hb => ?_⟩
        obtain rfl := List.mem_singleton.mp hb
        exact fun e => h (List.mem_eraseDups.mp (e ▸ ha))

/-- A name that is new gets the position behind the others. -/
theorem position_concat {ids : List String} {positions : List (String × Nat)} {name : String}
    (hname : name ∉ ids) (h : ∀ id i, positions.lookup id = some i ↔ ids[i]? = some id)
    (id : String) (i : Nat) : ((name, ids.length) :: positions).lookup id = some i ↔
      (ids ++ [name])[i]? = some id := by
  rw [List.getElem?_append]
  by_cases same : id = name
  · subst same
    rw [List.lookup_cons_self, Option.some.injEq]
    split
    · next before =>
      have absent : ids[i]? ≠ some id := fun found => hname (List.mem_of_getElem? found)
      exact iff_of_false (by omega) absent
    · next behind =>
      rw [List.getElem?_singleton]
      split
      · exact iff_of_true (by omega) rfl
      · exact iff_of_false (by omega) nofun
  · have other : (id == name) = false := beq_false_of_ne same
    rw [List.lookup_cons, other, h]
    split
    · rfl
    · next behind =>
      have absent : ids[i]? ≠ some id := by
        rw [List.getElem?_eq_none (Nat.le_of_not_lt behind)]
        nofun
      refine iff_of_false absent ?_
      rw [List.getElem?_singleton]
      split
      · exact fun found => same (Option.some.inj found).symm
      · nofun

/-- What the groups of some occurrences hold: the identifiers in the order of their first
occurrences, each with all its places, and each at the position that the table has for it. -/
structure Groups.Holds (g : Groups) (os : List Occurrence) : Prop where
  order : g.order = (os.map Occurrence.id).eraseDups.map fun id => (id, placesOf id os)
  position : ∀ id i, g.positions.lookup id = some i ↔
    (os.map Occurrence.id).eraseDups[i]? = some id

section Steps

variable {g : Groups} {os : List Occurrence} (h : g.Holds os)
include h

/-- The table leads to a group that is there, and to that of the identifier. -/
theorem Groups.Holds.group {id : String} {i : Nat} (hi : g.positions.lookup id = some i) :
    g.order[i]? = some (id, placesOf id os) := by
  rw [h.order, List.getElem?_map, (h.position id i).mp hi, Option.map_some]

/-- An identifier that the table does not know has not occurred. -/
theorem Groups.Holds.lookup_eq_none {id : String} (hid : g.positions.lookup id = none) :
    id ∉ os.map Occurrence.id := by
  intro hm
  obtain ⟨i, hi⟩ := List.mem_iff_getElem?.mp (List.mem_eraseDups.mpr hm)
  rw [(h.position id i).mpr hi] at hid
  cases hid

/-- The places of the others do not change with an occurrence. -/
theorem Groups.Holds.modify {o : Occurrence} {i : Nat} (hi : g.positions.lookup o.id = some i) :
    (g.order.modify i fun group => (group.1, group.2 ++ [o.path])) =
      (os.map Occurrence.id).eraseDups.map fun id => (id, placesOf id (os ++ [o])) := by
  refine List.ext_getElem? fun j => ?_
  rw [List.getElem?_modify, h.order, List.getElem?_map, List.getElem?_map, Option.map_eq_map,
    Option.map_map]
  cases hj : (os.map Occurrence.id).eraseDups[j]? with
  | none => rfl
  | some id =>
      -- the identifier at a position is that of the occurrence only at the position found
      have same : i = j ↔ o.id = id := by
        have atFound := (h.position o.id i).mp hi
        constructor
        · rintro rfl
          rw [atFound] at hj
          exact Option.some.inj hj
        · rintro rfl
          rw [(h.position o.id j).mpr hj] at hi
          exact (Option.some.inj hi).symm
      simp only [Option.map_some, Function.comp_apply, placesOf_concat, same]
      split <;> rfl

/-- One more occurrence. -/
theorem Groups.Holds.add (o : Occurrence) : (g.add o).Holds (os ++ [o]) := by
  rw [Groups.add]
  cases hi : g.positions.lookup o.id with
  | some i =>
      have known : o.id ∈ os.map Occurrence.id :=
        List.mem_eraseDups.mp (List.mem_of_getElem? ((h.position o.id i).mp hi))
      have ids : ((os ++ [o]).map Occurrence.id).eraseDups = (os.map Occurrence.id).eraseDups := by
        rw [List.map_append, List.map_singleton, eraseDups_concat, if_pos known]
      refine ⟨?_, ?_⟩
      · rw [ids]
        exact h.modify hi
      · rw [ids]
        exact h.position
  | none =>
      have fresh := h.lookup_eq_none hi
      have ids : ((os ++ [o]).map Occurrence.id).eraseDups =
          (os.map Occurrence.id).eraseDups ++ [o.id] := by
        rw [List.map_append, List.map_singleton, eraseDups_concat, if_neg fresh]
      have size : g.order.length = (os.map Occurrence.id).eraseDups.length := by
        rw [h.order, List.length_map]
      refine ⟨?_, ?_⟩
      · -- the other groups keep their places, and the new one has none before
        have others : ∀ id ∈ (os.map Occurrence.id).eraseDups,
            (id, placesOf id os) = (id, placesOf id (os ++ [o])) := fun id hid => by
          rw [placesOf_concat, if_neg fun e : o.id = id => fresh (e ▸ List.mem_eraseDups.mp hid)]
        rw [ids, List.map_append, List.map_singleton, placesOf_concat, if_pos rfl,
          placesOf_eq_nil fresh, List.nil_append, h.order, List.map_congr_left others]
      · rw [ids, size]
        exact position_concat (fun hm => fresh (List.mem_eraseDups.mp hm)) h.position

end Steps

/-- The groups hold what was met, whatever was met. -/
theorem groups_holds (os : List Occurrence) : (groups os).Holds os := by
  induction os using List.reverseRecOn with
  | nil => exact ⟨rfl, fun id i => by simp [groups]⟩
  | append_singleton os o ih =>
      rw [groups, List.foldl_append]
      exact ih.add o

/-- The places are grouped by identifier, in the order of first occurrences. -/
theorem placesById_eq (os : List Occurrence) : placesById os =
    (os.map Occurrence.id).eraseDups.map fun id => (id, placesOf id os) :=
  (groups_holds os).order

/-! ### The reports -/

/-- An identifier with one place is not reported. -/
theorem repetition?_eq_none {id : String} {places : List Path} :
    repetition? id places = none ↔ places.length ≤ 1 := by
  match places with
  | [] => simp [repetition?]
  | [_] => simp [repetition?]
  | _ :: _ :: _ => simp [repetition?]

/-- A report on an identifier stands at one of its places and gives them all. -/
theorem repetition?_eq_some {id : String} {places : List Path} {v : Violation}
    (h : repetition? id places = some v) :
    v.path ∈ places ∧ v.cause = .repeatedWidget id places := by
  match places with
  | [] => cases h
  | [_] => cases h
  | _ :: second :: _ =>
      obtain rfl := Option.some.inj h
      exact ⟨by simp, rfl⟩

/-- The occurrences that count. -/
def named (os : List Occurrence) : List Occurrence := os.filter (!·.id.isEmpty)

/-- The reports, from the identifiers that count and their places. -/
theorem repeatedWidgets_eq (os : List Occurrence) : repeatedWidgets os =
    ((named os).map Occurrence.id).eraseDups.filterMap fun id =>
      repetition? id (placesOf id (named os)) := by
  rw [repeatedWidgets, ← named, placesById_eq, List.filterMap_map]
  rfl

/-- Nothing is reported exactly if the identifiers that count differ. -/
theorem repeatedWidgets_eq_nil {os : List Occurrence} :
    repeatedWidgets os = [] ↔ ((named os).map Occurrence.id).Nodup := by
  rw [repeatedWidgets_eq, List.filterMap_eq_nil_iff, List.nodup_iff_count_le_one]
  simp only [List.mem_eraseDups, repetition?_eq_none, length_placesOf]
  refine ⟨fun h id => ?_, fun h id _ => h id⟩
  -- what does not occur is not looked at, and occurs no more than once
  by_cases hid : id ∈ (named os).map Occurrence.id
  · exact h id hid
  · rw [List.count_eq_zero_of_not_mem hid]
    exact Nat.zero_le 1

/-- A report on an identifier used again stands at an occurrence. -/
theorem mem_repeatedWidgets {os : List Occurrence} {v : Violation} (hv : v ∈ repeatedWidgets os) :
    v.kind = .duplicateIdentifier ∧ ∃ o ∈ os, o.path = v.path := by
  rw [repeatedWidgets_eq, List.mem_filterMap] at hv
  obtain ⟨id, -, hv⟩ := hv
  obtain ⟨hpath, hcause⟩ := repetition?_eq_some hv
  obtain ⟨o, ho, e⟩ := List.mem_map.mp hpath
  refine ⟨by rw [Violation.kind, hcause]; rfl, o, ?_, e⟩
  exact (List.mem_filter.mp (List.mem_filter.mp ho).1).1

/-! ### One report for each identifier -/

/-- To filter identifiers and list each once may be done in either order. -/
theorem eraseDups_filter (p : String → Bool) (ids : List String) :
    (ids.filter p).eraseDups = ids.eraseDups.filter p := by
  induction ids using List.reverseRecOn with
  | nil => rfl
  | append_singleton ids id ih =>
      rw [List.filter_append, eraseDups_concat]
      by_cases hp : p id = true
      · rw [List.filter_cons_of_pos hp, List.filter_nil, eraseDups_concat, ih]
        by_cases hid : id ∈ ids
        · rw [if_pos hid, if_pos (List.mem_filter.mpr ⟨hid, hp⟩)]
        · rw [if_neg hid, if_neg fun hm => hid (List.mem_filter.mp hm).1, List.filter_append,
            List.filter_cons_of_pos hp, List.filter_nil]
      · rw [List.filter_cons_of_neg hp, List.filter_nil, List.append_nil, ih]
        split
        · rfl
        · rw [List.filter_append, List.filter_cons_of_neg hp, List.filter_nil, List.append_nil]

/-- Distinct identifiers stand in the order of their first occurrences. -/
theorem pairwise_eraseDups (ids : List String) :
    ids.eraseDups.Pairwise fun a b => ids.idxOf a < ids.idxOf b := by
  induction ids using List.reverseRecOn with
  | nil => exact .nil
  | append_singleton ids id ih =>
      have earlier {a : String} (ha : a ∈ ids.eraseDups) :
          (ids ++ [id]).idxOf a = ids.idxOf a := by
        rw [List.idxOf_append, if_pos (List.mem_eraseDups.mp ha)]
      have kept : ids.eraseDups.Pairwise fun a b =>
          (ids ++ [id]).idxOf a < (ids ++ [id]).idxOf b := by
        refine ih.imp_of_mem fun ha hb lt => ?_
        rw [earlier ha, earlier hb]
        exact lt
      rw [eraseDups_concat]
      split
      · exact kept
      · next hid =>
        refine List.pairwise_append.mpr ⟨kept, List.pairwise_singleton _ _, fun a ha b hb => ?_⟩
        obtain rfl := List.mem_singleton.mp hb
        rw [earlier ha, List.idxOf_append, if_neg hid]
        exact Nat.lt_add_left _ (List.idxOf_lt_length_of_mem (List.mem_eraseDups.mp ha))

section Reports

variable (os : List Occurrence)

theorem map_id_named : (named os).map Occurrence.id =
    (os.map Occurrence.id).filter (!·.isEmpty) := by
  rw [List.filter_map]
  rfl

/-- An identifier that counts loses no place when the empty ones are dropped. -/
theorem placesOf_named {id : String} (hid : id.isEmpty = false) :
    placesOf id (named os) = placesOf id os := by
  rw [placesOf, named, List.filter_filter, placesOf]
  congr 1
  refine List.filter_congr fun o _ => ?_
  by_cases same : o.id = id
  · rw [same, hid, Bool.not_false, Bool.and_true]
  · rw [decide_eq_false same, Bool.false_and]

/-- The identifiers that occur again, by first occurrence. -/
def repeatedIds : List String :=
  (os.map Occurrence.id).eraseDups.filter fun id =>
    !id.isEmpty && decide (2 ≤ (os.map Occurrence.id).count id)

/-- The identifiers that occur again are those that count and occur twice or more. -/
theorem mem_repeatedIds {id : String} :
    id ∈ repeatedIds os ↔ id ≠ "" ∧ 2 ≤ (os.map Occurrence.id).count id := by
  rw [repeatedIds, List.mem_filter, List.mem_eraseDups, Bool.and_eq_true, decide_eq_true_eq,
    Bool.not_eq_true', Bool.eq_false_iff, ne_eq, String.isEmpty_iff]
  refine and_iff_right_of_imp fun ⟨_, twice⟩ => ?_
  exact List.count_pos_iff.mp (by omega)

/-- The reports, from the identifiers that occur again. -/
theorem repeatedWidgets_eq_filterMap : repeatedWidgets os =
    (repeatedIds os).filterMap fun id => repetition? id (placesOf id os) := by
  rw [repeatedWidgets_eq, map_id_named, eraseDups_filter, repeatedIds, List.filterMap_filter,
    List.filterMap_filter]
  refine List.filterMap_congr fun id _ => ?_
  cases empty : id.isEmpty with
  | true => rfl
  | false =>
      rw [placesOf_named os empty, Bool.not_false, if_pos rfl, Bool.true_and]
      split
      · rfl
      · next once =>
        have once : (os.map Occurrence.id).count id < 2 := by simpa using once
        rw [repetition?_eq_none, length_placesOf]
        exact Nat.le_of_lt_succ once

/-- The violation reports that an identifier is repeated: it stands at the second place, and says
how often the identifier occurs and where. -/
structure Repeats (id : String) (v : Violation) : Prop where
  kind : v.kind = .duplicateIdentifier
  second : (placesOf id os)[1]? = some v.path
  message : v.cause.message = "widget id '" ++ id ++ "' is declared " ++
    toString ((os.map Occurrence.id).count id) ++ " times (" ++
    ", ".intercalate ((placesOf id os).map Path.render) ++ ")"

/-- There is a report on each identifier that occurs again, and it says what it should. -/
theorem exists_repeats {id : String} (hid : id ∈ repeatedIds os) :
    ∃ v, repetition? id (placesOf id os) = some v ∧ Repeats os id v := by
  have twice := ((mem_repeatedIds os).mp hid).2
  rw [← length_placesOf] at twice
  match hplaces : placesOf id os, twice with
  | first :: second :: rest, _ =>
      refine ⟨_, rfl, rfl, ?_, ?_⟩
      · rw [hplaces]
        rfl
      · rw [← length_placesOf, hplaces]
        rfl

end Reports

/-- If a partial function has a fitting value everywhere, its values fit one by one. -/
theorem forall₂_filterMap {α β : Type} {R : α → β → Prop} {f : α → Option β} {xs : List α}
    (h : ∀ x ∈ xs, ∃ y, f x = some y ∧ R x y) : List.Forall₂ R xs (xs.filterMap f) := by
  induction xs with
  | nil => exact .nil
  | cons x xs ih =>
      obtain ⟨y, hy, hR⟩ := h x List.mem_cons_self
      rw [List.filterMap_cons_some hy]
      exact .cons hR (ih fun z hz => h z (List.mem_cons_of_mem _ hz))

/-- Each identifier that is not empty and occurs again is reported once, no other is, and the
reports are in the order of the first occurrences.  While the occurrences are passed over, the table
of positions leads to the group of an identifier, which has the places met before. -/
theorem repeatedWidgets_once (os : List Occurrence) :
    (∃ ids : List String, ids.Nodup ∧
      (∀ id, id ∈ ids ↔ id ≠ "" ∧ 2 ≤ (os.map Occurrence.id).count id) ∧
      (ids.Pairwise fun a b =>
        (os.map Occurrence.id).idxOf a < (os.map Occurrence.id).idxOf b) ∧
      List.Forall₂ (Repeats os) ids (repeatedWidgets os)) ∧
    (repeatedWidgets os = [] ↔ ((os.map Occurrence.id).filter (!·.isEmpty)).Nodup) ∧
    ∀ before o after, named os = before ++ o :: after →
      ∀ i, (groups before).positions.lookup o.id = some i →
        i < (groups before).order.length ∧
        (groups before).order[i]? = some (o.id, placesOf o.id before) := by
  have order : (repeatedIds os).Pairwise fun a b =>
      (os.map Occurrence.id).idxOf a < (os.map Occurrence.id).idxOf b :=
    (pairwise_eraseDups _).filter _
  refine ⟨⟨repeatedIds os, (nodup_eraseDups _).filter _, fun id => mem_repeatedIds os, order, ?_⟩,
    ?_, ?_⟩
  · rw [repeatedWidgets_eq_filterMap]
    exact forall₂_filterMap fun id hid => exists_repeats os hid
  · rw [repeatedWidgets_eq_nil, map_id_named]
  · intro before o _ _ i hi
    have found := (groups_holds before).group hi
    exact ⟨(List.getElem?_eq_some_iff.mp found).1, found⟩

end EntryForm.Rules
