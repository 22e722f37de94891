import Mathlib.Data.List.Induction
import Mathlib.Data.List.Nodup
import EntryForm.Proofs.Wire.Places

/-!
# Proofs — Json — sorting entries

* `lookup_sortEntries`: sorting entries with different keys keeps what is found under a key.
* `sortEntries_map`: sorting does not depend on the values.
* `Ascending es`: each key of the entries is less than all that come behind it.  Sorted entries are
  ascending, and such entries are sorted to themselves.
-/

namespace EntryForm
open Wire

variable {α β : Type} {key : String} {value : α} {es : List (String × α)}

/-! ### What is found -/

/-- An entry that is inserted is found, and hides no other key. -/
theorem lookup_insertEntry (k : String) : (insertEntry key value es).lookup k =
    if k = key then some value else es.lookup k := by
  induction es with
  | nil =>
      rw [insertEntry]
      split
      · next h => rw [h, List.lookup_cons_self]
      · next h => rw [lookup_cons_of_ne h]
  | cons e rest ih =>
      obtain ⟨other, x⟩ := e
      rw [insertEntry]
      split
      · by_cases h : k = key
        · rw [h, List.lookup_cons_self, if_pos rfl]
        · rw [lookup_cons_of_ne h, if_neg h]
      · split
        · next same =>
          by_cases h : k = key
          · rw [h, List.lookup_cons_self, if_pos rfl]
          · rw [lookup_cons_of_ne h, lookup_cons_of_ne (same ▸ h), if_neg h]
        · next apart =>
          by_cases h : k = key
          · rw [h] at ih ⊢
            rw [lookup_cons_of_ne apart, ih, if_pos rfl, if_pos rfl]
          · rw [if_neg h] at ih ⊢
            rw [List.lookup_cons, List.lookup_cons, ih]

/-- Nothing is there after an insertion but the new entry and those before. -/
theorem mem_of_mem_insertEntry {e : String × α} (h : e ∈ insertEntry key value es) :
    e = (key, value) ∨ e ∈ es := by
  induction es with
  | nil => exact .inl (List.mem_singleton.mp h)
  | cons first rest ih =>
      rw [insertEntry] at h
      split at h
      · exact List.mem_cons.mp h
      · split at h
        · exact (List.mem_cons.mp h).imp_right (List.mem_cons_of_mem _)
        · obtain rfl | h := List.mem_cons.mp h
          · exact .inr List.mem_cons_self
          · exact (ih h).imp_right (List.mem_cons_of_mem _)

/-- The last entry is inserted among the others. -/
theorem sortEntries_concat (es : List (String × α)) (e : String × α) :
    sortEntries (es ++ [e]) = insertEntry e.1 e.2 (sortEntries es) := by
  rw [sortEntries, List.foldl_append]
  rfl

/-- Sorting adds no entry. -/
theorem mem_of_mem_sortEntries {e : String × α} (h : e ∈ sortEntries es) : e ∈ es := by
  induction es using List.reverseRecOn with
  | nil => exact h
  | append_singleton es last ih =>
      rw [sortEntries_concat] at h
      rw [List.mem_append, List.mem_singleton]
      exact (mem_of_mem_insertEntry h).symm.imp_left ih

/-- Under each key sorted entries have the only value that was there. -/
theorem lookup_sortEntries (h : (es.map Prod.fst).Nodup) (k : String) :
    (sortEntries es).lookup k = es.lookup k := by
  induction es using List.reverseRecOn with
  | nil => rfl
  | append_singleton es last ih =>
      rw [List.map_append, List.nodup_append] at h
      obtain ⟨hes, -, apart⟩ := h
      rw [sortEntries_concat, lookup_insertEntry, ih hes, List.lookup_append]
      split
      · next hk =>
        have fresh : es.lookup k = none := List.lookup_eq_none_iff.mpr fun e he =>
          bne_iff_ne.mpr fun same => apart e.1 (List.mem_map_of_mem he) last.1
            (List.mem_map_of_mem List.mem_cons_self) (same.symm.trans hk)
        rw [fresh, Option.none_or, hk]
        exact List.lookup_cons_self.symm
      · next hk =>
        rw [lookup_cons_of_ne hk, List.lookup_nil, Option.or_none]

/-- Where keys differ, a value is found under its key. -/
theorem lookup_eq_some_of_mem (h : (es.map Prod.fst).Nodup) (mem : (key, value) ∈ es) :
    es.lookup key = some value := by
  obtain ⟨before, after, rfl⟩ := List.append_of_mem mem
  rw [List.map_append, List.nodup_append] at h
  obtain ⟨-, -, apart⟩ := h
  refine List.lookup_eq_some_iff.mpr ⟨before, after, rfl, fun e he => ?_⟩
  exact bne_iff_ne.mpr (apart e.1 (List.mem_map_of_mem he) key List.mem_cons_self).symm

/-- Sorting loses no entry if the keys differ. -/
theorem mem_sortEntries (h : (es.map Prod.fst).Nodup) {e : String × α} :
    e ∈ sortEntries es ↔ e ∈ es := by
  refine ⟨mem_of_mem_sortEntries, fun he => ?_⟩
  have found : es.lookup e.1 = some e.2 := lookup_eq_some_of_mem h he
  rw [← lookup_sortEntries h] at found
  obtain ⟨before, after, same, -⟩ := List.lookup_eq_some_iff.mp found
  rw [same]
  exact List.mem_append_right _ List.mem_cons_self

/-! ### Other values -/

/-- Where a value is put does not depend on the value. -/
theorem insertEntry_map (f : α → β) (value : α) (es : List (String × α)) :
    insertEntry key (f value) (es.map fun e => (e.1, f e.2)) =
      (insertEntry key value es).map fun e => (e.1, f e.2) := by
  induction es with
  | nil => rfl
  | cons e rest ih =>
      rw [List.map_cons, insertEntry, insertEntry]
      split
      · rfl
      · split
        · rfl
        · rw [ih, List.map_cons]

/-- The entries are sorted by their keys, whatever the values. -/
theorem sortEntries_map (f : α → β) (es : List (String × α)) :
    sortEntries (es.map fun e => (e.1, f e.2)) = (sortEntries es).map fun e => (e.1, f e.2) := by
  induction es using List.reverseRecOn with
  | nil => rfl
  | append_singleton before e ih =>
      rw [List.map_append, List.map_singleton, sortEntries_concat, sortEntries_concat, ih]
      exact insertEntry_map f e.2 _

/-- Looking up goes through a change of the values. -/
theorem lookup_map (f : String → α → β) (k : String) :
    (es.map fun e => (e.1, f e.1 e.2)).lookup k = (es.lookup k).map (f k) := by
  induction es with
  | nil => rfl
  | cons e rest ih =>
      obtain ⟨key, x⟩ := e
      rw [List.map_cons]
      by_cases h : k = key
      · rw [h, List.lookup_cons_self, List.lookup_cons_self, Option.map_some]
      · rw [lookup_cons_of_ne h, lookup_cons_of_ne h, ih]

/-! ### Ascending keys -/

/-- Each key is less than all that come behind it. -/
def Ascending (es : List (String × α)) : Prop := es.Pairwise fun e e' => e.1 < e'.1

/-- A value is put in front of the greater keys. -/
theorem ascending_insertEntry (h : Ascending es) : Ascending (insertEntry key value es) := by
  induction es with
  | nil => exact List.pairwise_singleton _ _
  | cons e rest ih =>
      obtain ⟨k, v⟩ := e
      obtain ⟨behind, others⟩ := List.pairwise_cons.mp h
      rw [insertEntry]
      split
      · next less =>
        refine List.pairwise_cons.mpr ⟨List.forall_mem_cons.mpr ⟨less, fun e he => ?_⟩, h⟩
        exact String.lt_trans less (behind e he)
      · next notLess =>
        split
        · next same => exact List.pairwise_cons.mpr ⟨same ▸ behind, others⟩
        · next other =>
          have greater : k < key := by
            obtain less | same | greater := Std.lt_trichotomy key k
            · exact absurd less notLess
            · exact absurd same other
            · exact greater
          refine List.pairwise_cons.mpr ⟨fun e he => ?_, ih others⟩
          obtain rfl | he := mem_of_mem_insertEntry he
          · exact greater
          · exact behind e he

/-- Sorted entries are ascending. -/
theorem ascending_sortEntries (es : List (String × α)) : Ascending (sortEntries es) := by
  induction es using List.reverseRecOn with
  | nil => exact List.Pairwise.nil
  | append_singleton before e ih =>
      rw [sortEntries_concat]
      exact ascending_insertEntry ih

/-- A value whose key is greater than all others is put behind them. -/
theorem insertEntry_of_less (h : ∀ e ∈ es, e.1 < key) :
    insertEntry key value es = es ++ [(key, value)] := by
  induction es with
  | nil => rfl
  | cons e rest ih =>
      obtain ⟨less, others⟩ := List.forall_mem_cons.mp h
      have other : key ≠ e.1 := fun same => String.lt_irrefl key (same ▸ less)
      rw [insertEntry, if_neg (String.lt_asymm less), if_neg other, ih others, List.cons_append]

/-- Entries with ascending keys are sorted to themselves. -/
theorem sortEntries_of_ascending (h : Ascending es) : sortEntries es = es := by
  induction es using List.reverseRecOn with
  | nil => rfl
  | append_singleton before e ih =>
      obtain ⟨first, -, less⟩ := List.pairwise_append.mp h
      rw [sortEntries_concat, ih first]
      exact insertEntry_of_less fun e' he' => less e' he' e (List.mem_singleton_self e)

/-- Sorted entries stay as they are. -/
@[simp] theorem sortEntries_sortEntries (es : List (String × α)) :
    sortEntries (sortEntries es) = sortEntries es :=
  sortEntries_of_ascending (ascending_sortEntries es)

end EntryForm
