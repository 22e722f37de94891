import EntryForm.Wire.Shape
import EntryForm.Wire.Mismatch

/-!
# Wire — decoding

`decode` reads a JSON value as a value of a shape, or says where it first fails to fit.  A record
is an object, whose unknown keys are ignored, or an array of the values of its slots in order,
which may end early; a record that is written flat within another is an object only.  No value is
refused for its meaning.
-/

namespace EntryForm.Wire

/-- The slot that a key names. -/
def Slot.named? {σ : Type} (key : String) (slots : List (Slot σ)) : Option (Slot σ) :=
  slots.find? (·.key == key)

/-- The value is null and may be. -/
def Slot.skips {σ : Type} (s : Slot σ) : Json → Bool
  | .null => s.nullable
  | _ => false

/-- A signed 64-bit integer. -/
def countOfInt (n : Int) : Except Mismatch Count :=
  if -Int.pow 2 63 ≤ n ∧ n < Int.pow 2 63 then .ok (Int64.ofInt n)
  else .error (.invalidValue (.int n) "i64")

/-- The double nearest to an integer of at most 64 bits. -/
def floatOfInt (n : Int) : Float :=
  if n < 0 then -(UInt64.ofNat n.natAbs).toFloat else (UInt64.ofNat n.natAbs).toFloat

/-- Reads the texts of an object. -/
def decodeLabels : List (String × Json) → Except Mismatch (List (String × String))
  | [] => .ok []
  | (key, .str text) :: rest => (decodeLabels rest).map ((key, text) :: ·)
  | (_, v) :: _ => .error (.invalidType (.ofJson v) "a string")

mutual

/-- Reads a value of the shape. -/
def decode : Json → (s : Shape) → Except Mismatch s.Value
  | .str t, .text => .ok t
  | v, .text => .error (.invalidType (.ofJson v) "a string")
  | .bool b, .flag => .ok b
  | v, .flag => .error (.invalidType (.ofJson v) "a boolean")
  | .int n, .count => countOfInt n
  | v, .count => .error (.invalidType (.ofJson v) "i64")
  | .int n, .number => .ok (floatOfInt n)
  | .float x, .number => .ok x
  | v, .number => .error (.invalidType (.ofJson v) "f64")
  | .obj entries, .labels => decodeLabels entries
  | v, .labels => .error (.invalidType (.ofJson v) "a map")
  | .obj entries, .free => .ok entries
  | v, .free => .error (.invalidType (.ofJson v) "a map")
  | .arr items, .list s => decodeList items s
  | v, .list _ => .error (.invalidType (.ofJson v) "a sequence")
  | .obj entries, .record r => do
      let own ← decodeEntries entries r [] r.blank
      match r.inlined with
      | none => .ok (r.finish own)
      | some flat =>
          let inner ← decodeEntries entries flat.record [] flat.record.blank
          .ok (r.finish (flat.put (flat.record.finish inner) own))
  | .arr items, .record r =>
      match r.inlined with
      | none => (decodeItems items items.length r r.slots r.blank).map r.finish
      | some _ => .error (.invalidType .seq r.title)
  | v, .record r => .error (.invalidType (.ofJson v) r.title)
termination_by structural v => v

/-- Reads the elements of a list. -/
def decodeList : List Json → (s : Shape) → Except Mismatch (List s.Value)
  | [], _ => .ok []
  | v :: rest, s => do
      let x ← decode v s
      let xs ← decodeList rest s
      .ok (x :: xs)
termination_by structural v => v

/-- Reads the entries of an object into the slots of a record; the keys `seen` are taken. -/
def decodeEntries : List (String × Json) → (r : Record) → (seen : List String) → r.Draft →
    Except Mismatch r.Draft
  | [], _, _, d => .ok d
  | (key, v) :: rest, r, seen, d =>
      match Slot.named? key r.slots with
      | none => decodeEntries rest r seen d
      | some slot =>
          if seen.contains key then .error (.duplicateField key)
          else if slot.skips v then decodeEntries rest r (key :: seen) d
          else do
            let x ← decode v slot.shape
            decodeEntries rest r (key :: seen) (slot.put x d)
termination_by structural v => v

/-- Reads the elements of an array of `length` elements into the slots of a record, in order. -/
def decodeItems : List Json → (length : Nat) → (r : Record) → List (Slot r.Draft) → r.Draft →
    Except Mismatch r.Draft
  | [], _, _, _, d => .ok d
  | _ :: _, length, _, [], _ => .error (.invalidLength length "fewer elements in array")
  | v :: rest, length, r, slot :: slots, d =>
      if slot.skips v then decodeItems rest length r slots d
      else do
        let x ← decode v slot.shape
        decodeItems rest length r slots (slot.put x d)
termination_by structural v => v

end

end EntryForm.Wire
