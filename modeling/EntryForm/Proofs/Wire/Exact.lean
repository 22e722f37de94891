import EntryForm.Proofs.Wire.Places

/-!
# Proofs — Wire — values that are exactly of a shape

* `Exact P n s v`: the value has the shape and nothing besides, or is null if `n`.  A record is an
  object without unknown keys, and `P` holds of the objects that may have any keys.

Whatever is written of a form is exactly of its shape.
-/

namespace EntryForm.Wire

/-- The value has the shape and nothing besides, or is null where it may be; `P` holds of the
objects of labels and of free data. -/
inductive Exact (P : Json → Prop) : Bool → Shape → Json → Prop where
  | null (s : Shape) : Exact P true s .null
  | text {n : Bool} (t : String) : Exact P n .text (.str t)
  | flag {n : Bool} (b : Bool) : Exact P n .flag (.bool b)
  | count {n : Bool} (c : Count) : Exact P n .count (ofCount c)
  | number {n : Bool} {x : Float} (finite : x.isFinite = true) : Exact P n .number (.float x)
  | labels {n : Bool} {es : List (String × Json)} (texts : ∀ e ∈ es, ∃ t, e.2 = .str t)
      (held : P (.obj es)) : Exact P n .labels (.obj es)
  | free {n : Bool} {es : List (String × Json)} (held : P (.obj es)) : Exact P n .free (.obj es)
  | list {n : Bool} {s : Shape} {items : List Json} (each : ∀ v ∈ items, Exact P false s v) :
      Exact P n (.list s) (.arr items)
  | record {n : Bool} {r : Record} {es : List (String × Json)}
      (known : ∀ e ∈ es, (r.keys.lookup e.1).isSome = true)
      (each : ∀ e ∈ es, ∀ s m, r.keys.lookup e.1 = some (s, m) → Exact P m s e.2) :
      Exact P n (.record r) (.obj es)

/-- Values of the shape hold no records. -/
def Shape.recordless : Shape → Bool
  | .list item => item.recordless
  | .record _ => false
  | .text | .flag | .count | .number | .labels | .free => true

/-- A record that is written flat within another holds no records. -/
theorem Record.recordless_inlined {r : Record} {flat : Inlined r.Draft} (hr : r.inlined = some flat)
    {slot : Slot flat.record.Draft} (h : slot ∈ flat.record.slots) :
    slot.shape.recordless = true := by
  cases r with
  | groupField =>
      obtain rfl := Option.some.inj hr
      have all : ∀ shape ∈ Record.field.slots.map Slot.shape, shape.recordless = true := by decide
      exact all _ (List.mem_map_of_mem h)
  | _ => cases hr

end EntryForm.Wire
