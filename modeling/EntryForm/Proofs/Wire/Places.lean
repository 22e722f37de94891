import EntryForm.Wire.Shape
import EntryForm.Wire.Encode
import EntryForm.Proofs.Rules.Checks

/-!
# Proofs — Wire — places in a document

* `Points kind s j steps`: the steps lead from the JSON value `j` of shape `s` to a place in it.
  A step into a record is one of its keys, a step into a list an element that is there.  Only the
  last key may be absent, and only for the kinds of defect that `MayLack` allows.
* `Leads kind s j p q`: below the value at the path `p`, the path `q` does that.
* `Violation.Inside`: a violation that is about a value below `p` and whose path leads there.
-/

namespace EntryForm.Wire

/-! ### Keys -/

/-- The keys of a record with those of the record that is written flat within it, each with the
shape of its value and whether that may be null. -/
def Record.keys (r : Record) : List (String × Shape × Bool) :=
  r.slots.map (fun s => (s.key, s.shape, s.nullable)) ++
    match r.inlined with
    | none => []
    | some flat => flat.record.slots.map fun s => (s.key, s.shape, s.nullable)

/-- No record has a key twice, what is written flat within it included. -/
theorem nodup_recordKeys (r : Record) : (r.keys.map Prod.fst).Nodup := by cases r <;> decide

/-- The kinds of defect that may be reported at a key without an entry.  A list that must not be
null is left out when it is empty, and then may be reported for that. -/
def MayLack (kind : Violation.Kind) (s : Shape) (nullable : Bool) : Prop :=
  kind = .missingField ∨ kind = .missingPayload ∨ kind = .unexpectedPayload ∨
    kind = .emptyCollection ∧ (∃ item, s = .list item) ∧ nullable = false

/-- The steps lead from a value of the shape to a place in it. -/
inductive Points (kind : Violation.Kind) : Shape → Json → List Step → Prop where
  | here (s : Shape) (v : Json) : Points kind s v []
  | element {s : Shape} {items : List Json} {i : Nat} {v : Json} {rest : List Step}
      (found : items[i]? = some v) (below : Points kind s v rest) :
      Points kind (.list s) (.arr items) (.index i :: rest)
  | value {r : Record} {entries : List (String × Json)} {key : String} {s : Shape}
      {nullable : Bool} {v : Json} {rest : List Step}
      (known : r.keys.lookup key = some (s, nullable)) (found : entries.lookup key = some v)
      (below : Points kind s v rest) : Points kind (.record r) (.obj entries) (.field key :: rest)
  | absent {r : Record} {entries : List (String × Json)} {key : String} {s : Shape}
      {nullable : Bool}
      (known : r.keys.lookup key = some (s, nullable)) (lacking : entries.lookup key = none)
      (may : MayLack kind s nullable) : Points kind (.record r) (.obj entries) [.field key]

/-- The path `q` goes on from `p`, and its further steps lead to a place in the value at `p`. -/
def Leads (kind : Violation.Kind) (s : Shape) (j : Json) (p q : Path) : Prop :=
  ∃ rest, rest ≠ [] ∧ q.steps = p.steps ++ rest ∧ Points kind s j rest

section Leading

variable {kind : Violation.Kind} {r : Record} {s : Shape} {j v : Json} {p q : Path}
  {nullable : Bool} {items : List Json} {i : Nat}

theorem Points.field {key : String} {rest : List Step}
    (known : r.keys.lookup key = some (s, nullable)) (found : j.get? key = some v)
    (below : Points kind s v rest) : Points kind (.record r) j (.field key :: rest) := by
  cases j with
  | obj entries => exact .value known found below
  | _ => cases found

/-! ### Leading one step down -/

/-- A record leads to the value under a key. -/
theorem Leads.field (key : String) (known : r.keys.lookup key = some (s, nullable))
    (found : j.get? key = some v) : Leads kind (.record r) j p (p.field key) :=
  ⟨[.field key], List.cons_ne_nil _ _, rfl, .field known found (.here s v)⟩

/-- A record leads to a key without an entry where one may be missing. -/
theorem Leads.lacking {entries : List (String × Json)} (key : String)
    (known : r.keys.lookup key = some (s, nullable)) (may : MayLack kind s nullable) :
    Leads kind (.record r) (.obj entries) p (p.field key) := by
  cases h : entries.lookup key with
  | none => exact ⟨[.field key], List.cons_ne_nil _ _, rfl, .absent known h may⟩
  | some v => exact Leads.field key known h

/-- A list leads to its elements. -/
theorem Leads.element (found : items[i]? = some v) :
    Leads kind (.list s) (.arr items) p (p.index i) :=
  ⟨[.index i], List.cons_ne_nil _ _, rfl, .element found (.here s v)⟩

/-! ### Leading further down -/

/-- A record leads to what the value under a key leads to. -/
theorem Leads.below_field (key : String) (known : r.keys.lookup key = some (s, nullable))
    (found : j.get? key = some v) (h : Leads kind s v (p.field key) q) :
    Leads kind (.record r) j p q := by
  obtain ⟨rest, -, hq, hv⟩ := h
  refine ⟨.field key :: rest, List.cons_ne_nil _ _, ?_, .field known found hv⟩
  rw [hq, Path.field, List.append_assoc, List.singleton_append]

/-- A list leads to what an element of it leads to. -/
theorem Leads.below_element (found : items[i]? = some v) (h : Leads kind s v (p.index i) q) :
    Leads kind (.list s) (.arr items) p q := by
  obtain ⟨rest, -, hq, hv⟩ := h
  refine ⟨.index i :: rest, List.cons_ne_nil _ _, ?_, .element found hv⟩
  rw [hq, Path.index, List.append_assoc, List.singleton_append]

/-- Into an element of a list in a record. -/
theorem Leads.below_item (key : String) {α : Type} {write : α → Json} {xs : List α} {x : α}
    (known : r.keys.lookup key = some (.list s, nullable))
    (found : j.get? key = some (.arr (xs.map write))) (hx : xs[i]? = some x)
    (h : Leads kind s (write x) (p.item key i) q) : Leads kind (.record r) j p q :=
  .below_field key known found (.below_element (by rw [List.getElem?_map, hx]; rfl) h)

end Leading

/-! ### Parts of a value -/

theorem sizeOf_element {items : List Json} {w : Json} (h : w ∈ items) :
    sizeOf w < sizeOf (Json.arr items) := by
  have := List.sizeOf_lt_of_mem h
  simp only [Json.arr.sizeOf_spec]
  omega

theorem sizeOf_member {es : List (String × Json)} {e : String × Json} (h : e ∈ es) :
    sizeOf e.2 < sizeOf (Json.obj es) := by
  have inside := List.sizeOf_lt_of_mem h
  have own : sizeOf e = 1 + sizeOf e.1 + sizeOf e.2 := by cases e; rfl
  simp only [Json.obj.sizeOf_spec]
  omega

/-! ### Entries of an object -/

theorem lookup_cons_of_ne {α : Type} {key k : String} (h : key ≠ k) (x : α)
    (entries : List (String × α)) : ((k, x) :: entries).lookup key = entries.lookup key := by
  rw [List.lookup_cons, beq_false_of_ne h]

theorem exists_lookup {key : String} {entries : List (String × Json)}
    (h : key ∈ entries.map Prod.fst) : ∃ v, entries.lookup key = some v := by
  obtain ⟨e, he, hk⟩ := List.mem_map.mp h
  exact Option.isSome_iff_exists.mp (List.lookup_isSome_iff.mpr ⟨e, he, beq_iff_eq.mpr hk.symm⟩)

/-- An entry that may be absent has its key exactly if it is there. -/
@[simp] theorem map_fst_present {α : Type} (key : String) (write : α → Json) (o : Option α) :
    (present key write o).map Prod.fst = (o.map fun _ => key).toList := by
  cases o <;> rfl

/-- A list that may be left out has its key exactly if it is not empty. -/
@[simp] theorem map_fst_nonempty {α : Type} (key : String) (write : α → Json) (xs : List α) :
    (nonempty key write xs).map Prod.fst = if xs = [] then [] else [key] := by
  cases xs <;> simp [nonempty]

/-- An entry that may be absent is found under its key when it is there. -/
@[simp] theorem lookup_present {α : Type} (key k : String) (write : α → Json) (o : Option α) :
    (present k write o).lookup key = if key = k then o.map write else none := by
  by_cases h : key = k
  · cases o <;> simp [present, h]
  · cases o <;> simp [present, lookup_cons_of_ne h, h]

/-- A list that may be left out is found under its key when it is not empty. -/
@[simp] theorem lookup_nonempty {α : Type} (key k : String) (write : α → Json) (xs : List α) :
    (nonempty k write xs).lookup key =
      if key = k ∧ xs ≠ [] then some (.arr (xs.map write)) else none := by
  by_cases h : key = k
  · cases xs <;> simp [nonempty, h]
  · cases xs <;> simp [nonempty, lookup_cons_of_ne h, h]

end EntryForm.Wire

namespace EntryForm
open Wire

theorem NestedItem.listToJson_eq_map (items : List NestedItem) :
    listToJson items = items.map toJson := by
  induction items with
  | nil => rfl
  | cons item rest ih => rw [listToJson, ih, List.map_cons]

/-- The entries of a nested item. -/
def NestedItem.entries (item : NestedItem) : List (String × Json) :=
  [("key", .str item.key), ("label", .str item.label), ("type", .str item.itemType),
    ("required", .bool item.required)] ++ nonempty "children" toJson item.children

/-- An item is written as an object of its entries. -/
theorem NestedItem.toJson_eq (item : NestedItem) : item.toJson = .obj item.entries := by
  obtain ⟨key, label, itemType, required, children⟩ := item
  rw [toJson, listToJson_eq_map]
  cases children <;> rfl

/-! ### Payloads -/

/-- The record of the payloads of a kind. -/
def Kind.record : Kind → Record
  | .field => .field
  | .group => .group
  | .table => .table
  | .grid => .grid
  | .checklist => .checklist
  | .formHeader => .header
  | .signature => .signature
  | .notes => .notes
  | .nestedChecklist => .nestedChecklist
  | .radioGroup => .radioGroup
  | .checkboxGroup => .checkboxGroup
  | .timePicker => .timePicker

/-- The name of a kind is the key of a widget for payloads of that kind. -/
theorem Kind.lookup_name (k : Kind) :
    Record.widget.keys.lookup k.name = some (.record k.record, true) := by
  cases k <;> rfl

/-! ### Violations -/

/-- The violation is about a value inside the one at `p`, and its path leads there. -/
structure Violation.Inside (s : Shape) (j : Json) (p : Path) (v : Violation) : Prop where
  ofValue : v.kind.OfValue
  leads : Leads v.kind s j p v.path

section Inside

variable {r : Record} {s : Shape} {j : Json} {p : Path} {v : Violation} {nullable : Bool}

/-- A defect of the value under a key that has one. -/
theorem Violation.IsAt.inside {key : String} {entries : List (String × Json)}
    (h : v.IsAt (p.field key)) (known : r.keys.lookup key = some (s, nullable))
    (found : key ∈ entries.map Prod.fst) : v.Inside (.record r) (.obj entries) p := by
  obtain ⟨w, hw⟩ := exists_lookup found
  exact ⟨h.2, h.1 ▸ .field key known hw⟩

/-- A violation in an element of a list is one in the record that has the list. -/
theorem Violation.Inside.item (key : String) {α : Type} {write : α → Json} {xs : List α} {i : Nat}
    {x : α} (known : r.keys.lookup key = some (.list s, nullable))
    (found : j.get? key = some (.arr (xs.map write))) (hx : xs[i]? = some x)
    (h : v.Inside s (write x) (p.item key i)) : v.Inside (.record r) j p :=
  ⟨h.ofValue, .below_item key known found hx h.leads⟩

end Inside

end EntryForm
