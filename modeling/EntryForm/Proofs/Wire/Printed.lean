import EntryForm.Proofs.Json.Shaped
import EntryForm.Proofs.Schema.Conformance
import EntryForm.Proofs.Wire.Read
import EntryForm.Proofs.Wire.Reread

/-!
# Proofs — Wire — what comes back from the text of a form

The text that is written of a form as JSON stands for a value, and what comes back from that value
is the form reread.  It comes back from the text as well, where the text can be read.

* `Form.Legible`: the numbers in the text are read back, and it has not too many levels of brackets.
* `Form.read_write_json`: the form reread comes back from the text.
-/

namespace EntryForm

/-! ### Sorted values -/

namespace Json

/-- Null is written for some values, which does not change how they are sorted. -/
theorem sortEntries_written (es : List (String × Json)) :
    sortEntries (writtenEntries es) = writtenEntries (sortEntries es) := by
  rw [writtenEntries_eq_map, writtenEntries_eq_map, sortEntries_map]

mutual

/-- What is written of a value does not depend on whether it is sorted before or after. -/
theorem sorted_written : ∀ v : Json, v.written.sorted = v.sorted.written
  | .null => rfl
  | .bool _ => rfl
  | .int _ => rfl
  | .str _ => rfl
  | .float x => by
    rw [sorted, written]
    split <;> rfl
  | .arr items => congrArg arr (sortedItems_written items)
  | .obj es => by
    rw [written, sorted, sorted, written, sortedEntries_written es, sortEntries_written]

/-- So it is with the items of a list. -/
theorem sortedItems_written :
    ∀ items : List Json, sortedItems (writtenItems items) = writtenItems (sortedItems items)
  | [] => rfl
  | v :: rest => by
    rw [writtenItems, sortedItems, sorted_written v, sortedItems_written rest]
    rfl

/-- So it is with the values in an object. -/
theorem sortedEntries_written : ∀ es : List (String × Json),
    sortedEntries (writtenEntries es) = writtenEntries (sortedEntries es)
  | [] => rfl
  | (key, v) :: rest => by
    rw [writtenEntries, sortedEntries, sorted_written v, sortedEntries_written rest]
    rfl

end

mutual

/-- No number has a level of its own, so as many are left when null is written for it. -/
theorem levels_written : ∀ v : Json, v.written.levels = v.levels
  | .null => rfl
  | .bool _ => rfl
  | .int _ => rfl
  | .str _ => rfl
  | .float x => by
    rw [written]
    split <;> rfl
  | .arr items => by rw [written, levels, levels, levelsItems_written items]
  | .obj es => by rw [written, levels, levels, levelsEntries_written es]

/-- So it is with all items together. -/
theorem levelsItems_written :
    ∀ items : List Json, levelsItems (writtenItems items) = levelsItems items
  | [] => rfl
  | v :: rest => by
    rw [writtenItems, levelsItems, levelsItems, levels_written v, levelsItems_written rest]

/-- So it is with all values in an object together. -/
theorem levelsEntries_written :
    ∀ es : List (String × Json), levelsEntries (writtenEntries es) = levelsEntries es
  | [] => rfl
  | (key, v) :: rest => by
    rw [writtenEntries, levelsEntries, levelsEntries, levels_written v,
      levelsEntries_written rest]

end

end Json

/-! ### Forms -/

namespace Form

open Wire

/-- The text that is written of the form can be read: its numbers are read back, and not too many
brackets are open at once. -/
structure Legible (f : Form) : Prop where
  numbers : f.toJson.written.Readable
  levels : f.toJson.levels < Json.depthLimit

/-- What is written of a form comes back from its text as it does from the value. -/
theorem read_write_json {f : Form} (typed : f.Typed) (sorted : f.Sorted) (legible : f.Legible) :
    Form.read .json (f.write .json) = .ok f.reread := by
  have labels (ls : List (String × String)) (h : ls ∈ f.labels) :
      (Json.obj (ls.map fun l => (l.1, .str l.2))).sorted =
        .obj (ls.map fun l => (l.1, .str l.2)) := by
    have texts : Json.sortedEntries (ls.map fun l => (l.1, Json.str l.2)) =
        ls.map fun l => (l.1, Json.str l.2) :=
      Json.sortedEntries_eq_self (List.forall_mem_map.mpr fun _ _ => rfl)
    rw [Json.sorted, texts, sortEntries_map Json.str, sorted.labels ls h]
  have metadata (es : List (String × Json)) (h : es ∈ f.metadata) :
      (Json.obj es).written.sorted = (Json.obj es).written := by
    rw [Json.sorted_written, sorted.metadata es h]
  have shaped := f.conforms (P := fun v => v.sorted = v) (n := false) labels metadata
  have text := Json.readAs_pretty shaped (f.decode_written typed) legible.numbers
    ((Json.levels_written f.toJson).symm ▸ legible.levels)
  rw [Json.pretty_written] at text
  rw [Form.read, Form.write, text]
  rfl

end Form

end EntryForm
