import EntryForm.Json.Printer

/-!
# Proofs — Json — what is written of a value

JSON has no numbers that are not finite; null is written for them.

* `written`: the value that is written.  It has the same text (`pretty_written`).
* `Finite`: the value is written as it is, since all its numbers are finite.
-/

namespace EntryForm.Json

mutual

/-- The value with null for each number that is not finite. -/
def written : Json → Json
  | .float x => if x.isFinite then .float x else .null
  | .arr items => .arr (writtenItems items)
  | .obj entries => .obj (writtenEntries entries)
  | .null => .null
  | .bool b => .bool b
  | .int n => .int n
  | .str s => .str s

def writtenItems : List Json → List Json
  | [] => []
  | v :: rest => v.written :: writtenItems rest

def writtenEntries : List (String × Json) → List (String × Json)
  | [] => []
  | (key, v) :: rest => (key, v.written) :: writtenEntries rest

end

/-- Items are written one by one. -/
theorem writtenItems_eq_map (items : List Json) : writtenItems items = items.map written := by
  induction items with
  | nil => rfl
  | cons v rest ih => rw [writtenItems, ih, List.map_cons]

/-- Entries keep their keys. -/
theorem writtenEntries_eq_map (entries : List (String × Json)) :
    writtenEntries entries = entries.map fun e => (e.1, e.2.written) := by
  induction entries with
  | nil => rfl
  | cons e rest ih => rw [writtenEntries, ih, List.map_cons]

/-! ### Texts -/

mutual

/-- A value and what is written of it have the same text, at any level. -/
theorem prettyAt_written (level : Nat) : ∀ v : Json, v.written.prettyAt level = v.prettyAt level
  | .null => rfl
  | .bool _ => rfl
  | .int _ => rfl
  | .str _ => rfl
  | .float x => by
    rw [written]
    split
    · rfl
    · next h => rw [prettyAt, prettyAt, writeFloat, if_neg h]
  | .arr [] => rfl
  | .arr (v :: rest) => by
    have items := prettyItems_written (level + 1) (v :: rest)
    rw [writtenItems] at items
    rw [written, writtenItems, prettyAt, prettyAt, items]
    · nofun
    · nofun
  | .obj [] => rfl
  | .obj ((key, v) :: rest) => by
    have entries := prettyEntries_written (level + 1) ((key, v) :: rest)
    rw [writtenEntries] at entries
    rw [written, writtenEntries, prettyAt, prettyAt, entries]
    · nofun
    · nofun

/-- So have the items of an array. -/
theorem prettyItems_written (level : Nat) : ∀ items : List Json,
    prettyItems level (writtenItems items) = prettyItems level items
  | [] => rfl
  | v :: rest => by
    rw [writtenItems, prettyItems, prettyItems, prettyAt_written level v,
      prettyItems_written level rest]

/-- So have the entries of an object. -/
theorem prettyEntries_written (level : Nat) : ∀ entries : List (String × Json),
    prettyEntries level (writtenEntries entries) = prettyEntries level entries
  | [] => rfl
  | (key, v) :: rest => by
    rw [writtenEntries, prettyEntries, prettyEntries, prettyAt_written level v,
      prettyEntries_written level rest]

end

/-- What is written of a value has the text of the value. -/
theorem pretty_written (v : Json) : v.written.pretty = v.pretty := prettyAt_written 0 v

/-! ### Finite values -/

/-- Every number in the value is finite. -/
def Finite (v : Json) : Prop := v.written = v

@[simp] theorem finite_bool (b : Bool) : (bool b).Finite := rfl

@[simp] theorem finite_int (n : Int) : (int n).Finite := rfl

@[simp] theorem finite_str (s : String) : (str s).Finite := rfl

/-- A float is finite if its number is. -/
theorem finite_float {x : Float} (h : x.isFinite = true) : (float x).Finite := by
  rw [Finite, written, if_pos h]

/-- An array is finite if its items are. -/
@[simp] theorem finite_arr {items : List Json} : (arr items).Finite ↔ ∀ v ∈ items, v.Finite := by
  rw [Finite, written, arr.injEq]
  induction items with
  | nil => simp [writtenItems]
  | cons v rest ih => rw [writtenItems, List.cons.injEq, ih, List.forall_mem_cons, Finite]

/-- An object is finite if the values in it are. -/
@[simp] theorem finite_obj {entries : List (String × Json)} :
    (obj entries).Finite ↔ ∀ e ∈ entries, e.2.Finite := by
  rw [Finite, written, obj.injEq]
  induction entries with
  | nil => simp [writtenEntries]
  | cons e rest ih =>
      rw [writtenEntries, List.cons.injEq, ih, List.forall_mem_cons, Finite, Prod.ext_iff]
      simp only [true_and]

end EntryForm.Json
