import EntryForm.Json.Reader
import EntryForm.Proofs.Json.Sorting
import EntryForm.Proofs.Wire.Entries

/-!
# Proofs — Json — sorted values

The readers sort the entries of every object that is kept as it is, so what they read is sorted, and
sorting it again changes nothing.

* `sorted`: the value with the entries of its objects sorted.
* `sorted_of_readAny`: whatever is read from a JSON text is sorted.
-/

namespace EntryForm.Json

open Wire Cursor

mutual

/-- The value with the entries of its objects sorted, the last one of each key. -/
def sorted : Json → Json
  | .arr items => .arr (sortedItems items)
  | .obj entries => .obj (sortEntries (sortedEntries entries))
  | .null => .null
  | .bool b => .bool b
  | .int n => .int n
  | .float x => .float x
  | .str s => .str s

def sortedItems : List Json → List Json
  | [] => []
  | v :: rest => v.sorted :: sortedItems rest

def sortedEntries : List (String × Json) → List (String × Json)
  | [] => []
  | (key, v) :: rest => (key, v.sorted) :: sortedEntries rest

end

variable {es : List (String × Json)}

/-- The values of entries are sorted one by one. -/
theorem sortedEntries_eq_map : sortedEntries es = es.map fun e => (e.1, e.2.sorted) := by
  induction es with
  | nil => rfl
  | cons e rest ih => rw [sortedEntries, ih, List.map_cons]

/-- So are the items of a list. -/
theorem sortedItems_eq_map (items : List Json) : sortedItems items = items.map sorted := by
  induction items with
  | nil => rfl
  | cons v rest ih => rw [sortedItems, ih, List.map_cons]

/-- Entries whose values are sorted stay as they are. -/
theorem sortedEntries_eq_self (h : ∀ e ∈ es, e.2.sorted = e.2) : sortedEntries es = es := by
  rw [sortedEntries_eq_map]
  refine (List.map_congr_left fun e he => ?_).trans (List.map_id' _)
  rw [h e he]

/-- An object of sorted values whose entries have been sorted is sorted. -/
theorem sorted_obj (h : ∀ e ∈ es, e.2.sorted = e.2) :
    (obj (sortEntries es)).sorted = obj (sortEntries es) := by
  rw [sorted, sortedEntries_eq_self fun e he => h e (mem_of_mem_sortEntries he),
    sortEntries_sortEntries]

/-- A list of sorted values is. -/
theorem sorted_arr {items : List Json} (h : ∀ v ∈ items, v.sorted = v) :
    (arr items).sorted = arr items := by
  rw [sorted, sortedItems_eq_map]
  exact congrArg arr ((List.map_congr_left h).trans (List.map_id' _))

/-! ### Values that are read -/

/-- With this fuel, whatever is read is sorted. -/
structure AnySorted (fuel : Nat) : Prop where
  any : ∀ {depth k x}, readAny fuel depth k = .ok x → x.1.sorted = x.1
  elements : ∀ {depth first k x}, readAnyElements fuel depth first k = .ok x →
    ∀ v ∈ x.1, v.sorted = v
  members : ∀ {depth first k x}, readAnyMembers fuel depth first k = .ok x →
    ∀ e ∈ x.1, e.2.sorted = e.2

/-- A number has nothing to sort. -/
theorem sorted_toJson (n : Number) : n.toJson.sorted = n.toJson := by
  cases n <;> rfl

/-- With any fuel it is: one more unit of it reads one more value. -/
theorem anySorted (fuel : Nat) : AnySorted fuel := by
  induction fuel with
  | zero =>
      refine ⟨fun h => ?_, fun h => ?_, fun h => ?_⟩
      · rw [readAny] at h
        cases h
      · rw [readAnyElements] at h
        cases h
      · rw [readAnyMembers] at h
        cases h
  | succ fuel ih =>
      refine ⟨fun h => ?_, fun h => ?_, fun h => ?_⟩
      · rw [readAny] at h
        split at h
        · cases h
        · obtain ⟨k, -, h⟩ := bind_eq_ok.mp h
          exact Except.ok.inj h ▸ rfl
        · obtain ⟨k, -, h⟩ := bind_eq_ok.mp h
          exact Except.ok.inj h ▸ rfl
        · obtain ⟨k, -, h⟩ := bind_eq_ok.mp h
          exact Except.ok.inj h ▸ rfl
        · obtain ⟨⟨n, k⟩, -, h⟩ := bind_eq_ok.mp h
          exact Except.ok.inj h ▸ sorted_toJson n
        · obtain ⟨⟨t, k⟩, -, h⟩ := bind_eq_ok.mp h
          exact Except.ok.inj h ▸ rfl
        · obtain ⟨k, -, h⟩ := bind_eq_ok.mp h
          obtain ⟨⟨items, k⟩, hitems, h⟩ := bind_eq_ok.mp h
          obtain ⟨k, -, h⟩ := bind_eq_ok.mp h
          exact Except.ok.inj h ▸ sorted_arr (ih.elements hitems)
        · obtain ⟨k, -, h⟩ := bind_eq_ok.mp h
          obtain ⟨⟨es, k⟩, hes, h⟩ := bind_eq_ok.mp h
          obtain ⟨k, -, h⟩ := bind_eq_ok.mp h
          exact Except.ok.inj h ▸ sorted_obj (ih.members hes)
        · split at h
          · obtain ⟨⟨n, k⟩, -, h⟩ := bind_eq_ok.mp h
            exact Except.ok.inj h ▸ sorted_toJson n
          · cases h
      · rw [readAnyElements] at h
        obtain ⟨⟨more, k⟩, -, h⟩ := bind_eq_ok.mp h
        dsimp only at h
        split at h
        · obtain ⟨v, hv, h⟩ := bind_eq_ok.mp h
          obtain ⟨vs, hvs, h⟩ := bind_eq_ok.mp h
          obtain rfl := Except.ok.inj h
          exact List.forall_mem_cons.mpr ⟨ih.any hv, ih.elements hvs⟩
        · obtain rfl := Except.ok.inj h
          exact List.forall_mem_nil _
      · rw [readAnyMembers] at h
        obtain ⟨⟨more, k⟩, -, h⟩ := bind_eq_ok.mp h
        dsimp only at h
        split at h
        · obtain ⟨⟨key, k⟩, -, h⟩ := bind_eq_ok.mp h
          obtain ⟨k, -, h⟩ := bind_eq_ok.mp h
          obtain ⟨v, hv, h⟩ := bind_eq_ok.mp h
          obtain ⟨vs, hvs, h⟩ := bind_eq_ok.mp h
          obtain rfl := Except.ok.inj h
          exact List.forall_mem_cons.mpr ⟨ih.any hv, ih.members hvs⟩
        · obtain rfl := Except.ok.inj h
          exact List.forall_mem_nil _

variable {fuel depth : Nat} {first : Bool} {k : Cursor}

/-- Whatever is read is sorted. -/
theorem sorted_of_readAny {x : Json × Cursor} (h : readAny fuel depth k = .ok x) :
    x.1.sorted = x.1 :=
  (anySorted fuel).any h

/-- The values of members that are read are sorted. -/
theorem sorted_of_readAnyMembers {x : List (String × Json) × Cursor}
    (h : readAnyMembers fuel depth first k = .ok x) : ∀ e ∈ x.1, e.2.sorted = e.2 :=
  (anySorted fuel).members h

end EntryForm.Json
