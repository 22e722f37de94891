import EntryForm.Json.Scalar
import EntryForm.Wire.Decode

/-!
# JSON — reading a text

A text is read directly as a value of a shape, in the order in which it is written, so that the
first fault in the text is the one reported: a break of the grammar or a value of the wrong shape.
The value of an unknown key is skipped.  A key that is met twice is a fault; in an object of
labels or of free data the last value of a key counts, and the entries are sorted.

Lists and objects nest less than 128 deep, skipped values apart.  The readers are bounded by a
fuel that the length of the text exceeds at no step (`fuelFor`).
-/

namespace EntryForm.Json

open Wire

/-! ### Between values -/

/-- Is there another element?  `first` holds before any has been read. -/
def hasElement (first : Bool) (k : Cursor) : Except Error (Bool × Cursor) :=
  let k := k.skipBlanks
  match k.rest with
  | [] => k.failPeeked .endInList
  | ']' :: _ => .ok (false, k)
  | c :: _ =>
      if first then .ok (true, k)
      else if c = ',' then
        let k := k.next.skipBlanks
        match k.rest with
        | [] => k.failPeeked .endInValue
        | ']' :: _ => k.failPeeked .trailingComma
        | _ => .ok (true, k)
      else k.failPeeked .expectedListEnd

/-- Is there another key?  `first` holds before any has been read. -/
def hasKey (first : Bool) (k : Cursor) : Except Error (Bool × Cursor) :=
  let k := k.skipBlanks
  match k.rest with
  | [] => k.failPeeked .endInObject
  | '}' :: _ => .ok (false, k)
  | c :: _ =>
      if first then if c = '"' then .ok (true, k) else k.failPeeked .keyNotString
      else if c = ',' then
        let k := k.next.skipBlanks
        match k.rest with
        | [] => k.failPeeked .endInValue
        | '"' :: _ => .ok (true, k)
        | '}' :: _ => k.failPeeked .trailingComma
        | _ => k.failPeeked .keyNotString
      else k.failPeeked .expectedObjectEnd

/-- Beyond the end of a list. -/
def endList (k : Cursor) : Except Error Cursor :=
  let k := k.skipBlanks
  match k.rest with
  | [] => k.failPeeked .endInList
  | ']' :: _ => .ok k.next
  | ',' :: _ =>
      let k := k.next.skipBlanks
      match k.rest with
      | ']' :: _ => k.failPeeked .trailingComma
      | _ => k.failPeeked .trailingCharacters
  | _ => k.failPeeked .trailingCharacters

/-- Beyond the end of an object. -/
def endObject (k : Cursor) : Except Error Cursor :=
  let k := k.skipBlanks
  match k.rest with
  | [] => k.failPeeked .endInObject
  | '}' :: _ => .ok k.next
  | ',' :: _ => k.failPeeked .trailingComma
  | _ => k.failPeeked .trailingCharacters

/-- Beyond the colon after a key. -/
def afterColon (k : Cursor) : Except Error Cursor :=
  let k := k.skipBlanks
  match k.rest with
  | [] => k.failPeeked .endInObject
  | ':' :: _ => .ok k.next
  | _ => k.failPeeked .expectedColon

/-- The mismatch of an object whose entries do not fit, found at the cursor: it is placed behind
the object's end if that comes next. -/
def failObject {α : Type} (k : Cursor) (m : Mismatch) : Except Error α :=
  let k := k.skipBlanks
  match k.rest with
  | '}' :: _ => k.next.fail (.mismatch m)
  | _ => k.fail (.mismatch m)

/-! ### Skipping -/

mutual

/-- Skips a value. -/
def skipValue : Nat → Cursor → Except Error Cursor
  | 0, k => k.fail .tooDeep
  | fuel + 1, k =>
      let k := k.skipBlanks
      match k.rest with
      | [] => k.failPeeked .endInValue
      | 'n' :: _ => readWord ['u', 'l', 'l'] k.next
      | 't' :: _ => readWord ['r', 'u', 'e'] k.next
      | 'f' :: _ => readWord ['a', 'l', 's', 'e'] k.next
      | '-' :: _ => skipNumber k.next
      | '"' :: _ => skipString k.next
      | '[' :: _ =>
          let k := k.next.skipBlanks
          match k.rest with
          | ']' :: _ => .ok k.next
          | [] => k.failPeeked .endInList
          | _ => skipElements fuel k
      | '{' :: _ =>
          let k := k.next.skipBlanks
          match k.rest with
          | '}' :: _ => .ok k.next
          | [] => k.failPeeked .endInObject
          | _ => skipMembers fuel k
      | c :: _ => if c.isDigit then skipNumber k else k.failPeeked .expectedValue

/-- Skips the elements of a list, and its end. -/
def skipElements : Nat → Cursor → Except Error Cursor
  | 0, k => k.fail .tooDeep
  | fuel + 1, k => do
      let k ← skipValue fuel k
      let k := k.skipBlanks
      match k.rest with
      | [] => k.failPeeked .endInList
      | ']' :: _ => .ok k.next
      | ',' :: _ => skipElements fuel k.next
      | _ => k.failPeeked .expectedListEnd

/-- Skips the members of an object, and its end. -/
def skipMembers : Nat → Cursor → Except Error Cursor
  | 0, k => k.fail .tooDeep
  | fuel + 1, k => do
      let k := k.skipBlanks
      match k.rest with
      | [] => k.failPeeked .endInObject
      | '"' :: _ =>
          let k ← skipString k.next
          let k ← afterColon k
          let k ← skipValue fuel k
          let k := k.skipBlanks
          match k.rest with
          | [] => k.failPeeked .endInObject
          | '}' :: _ => .ok k.next
          | ',' :: _ => skipMembers fuel k.next
          | _ => k.failPeeked .expectedObjectEnd
      | _ => k.failPeeked .keyNotString

end

/-! ### Values of any shape -/

/-- Beyond an opening bracket, if there may be another level. -/
def enter (depth : Nat) (k : Cursor) : Except Error Cursor :=
  if depth ≤ 1 then k.failPeeked .tooDeep else .ok k.next

mutual

/-- Reads any value; `depth` levels of brackets are left. -/
def readAny : Nat → (depth : Nat) → Cursor → Except Error (Json × Cursor)
  | 0, _, k => k.fail .tooDeep
  | fuel + 1, depth, k => do
      let k := k.skipBlanks
      match k.rest with
      | [] => k.failPeeked .endInValue
      | 'n' :: _ => let k ← readWord ['u', 'l', 'l'] k.next; .ok (.null, k)
      | 't' :: _ => let k ← readWord ['r', 'u', 'e'] k.next; .ok (.bool true, k)
      | 'f' :: _ => let k ← readWord ['a', 'l', 's', 'e'] k.next; .ok (.bool false, k)
      | '-' :: _ => let (n, k) ← readNumber true k.next; .ok (n.toJson, k)
      | '"' :: _ => let (s, k) ← readString k.next; .ok (.str s, k)
      | '[' :: _ =>
          let k ← enter depth k
          let (items, k) ← readAnyElements fuel (depth - 1) true k
          let k ← endList k
          .ok (.arr items, k)
      | '{' :: _ =>
          let k ← enter depth k
          let (entries, k) ← readAnyMembers fuel (depth - 1) true k
          let k ← endObject k
          .ok (.obj (sortEntries entries), k)
      | c :: _ =>
          if c.isDigit then
            let (n, k) ← readNumber false k
            .ok (n.toJson, k)
          else k.failPeeked .expectedValue

/-- Reads the elements of a list of any values. -/
def readAnyElements : Nat → (depth : Nat) → Bool → Cursor → Except Error (List Json × Cursor)
  | 0, _, _, k => k.fail .tooDeep
  | fuel + 1, depth, first, k => do
      let (more, k) ← hasElement first k
      if more then
        let (v, k) ← readAny fuel depth k
        let (vs, k) ← readAnyElements fuel depth false k
        .ok (v :: vs, k)
      else .ok ([], k)

/-- Reads the members of an object of any values, in the order written. -/
def readAnyMembers : Nat → (depth : Nat) → Bool → Cursor →
    Except Error (List (String × Json) × Cursor)
  | 0, _, _, k => k.fail .tooDeep
  | fuel + 1, depth, first, k => do
      let (more, k) ← hasKey first k
      if more then
        let (key, k) ← readString k.next
        let k ← afterColon k
        let (v, k) ← readAny fuel depth k
        let (vs, k) ← readAnyMembers fuel depth false k
        .ok ((key, v) :: vs, k)
      else .ok ([], k)

end

/-! ### Values of a shape -/

/-- The fault of a value that is not of the kind expected.  The cursor stands at the value. -/
def wrongType {α : Type} (expected : String) (k : Cursor) : Except Error α := do
  match k.rest with
  | 'n' :: _ =>
      let k ← readWord ['u', 'l', 'l'] k.next
      k.fail (.mismatch (.invalidType .unit expected))
  | 't' :: _ =>
      let k ← readWord ['r', 'u', 'e'] k.next
      k.fail (.mismatch (.invalidType (.bool true) expected))
  | 'f' :: _ =>
      let k ← readWord ['a', 'l', 's', 'e'] k.next
      k.fail (.mismatch (.invalidType (.bool false) expected))
  | '-' :: _ =>
      let (n, k) ← readNumber true k.next
      k.fail (.mismatch (.invalidType (.ofJson n.toJson) expected))
  | '"' :: _ =>
      let (s, k) ← readString k.next
      k.fail (.mismatch (.invalidType (.str s) expected))
  | '[' :: _ => k.fail (.mismatch (.invalidType .seq expected))
  | '{' :: _ => k.fail (.mismatch (.invalidType .map expected))
  | c :: _ =>
      if c.isDigit then
        let (n, k) ← readNumber false k
        k.fail (.mismatch (.invalidType (.ofJson n.toJson) expected))
      else k.failPeeked .expectedValue
  | [] => k.failPeeked .expectedValue

/-- Reads a text. -/
def readText (k : Cursor) : Except Error (String × Cursor) :=
  let k := k.skipBlanks
  match k.rest with
  | [] => k.failPeeked .endInValue
  | '"' :: _ => readString k.next
  | _ => wrongType "a string" k

/-- Reads a truth value. -/
def readFlag (k : Cursor) : Except Error (Bool × Cursor) := do
  let k := k.skipBlanks
  match k.rest with
  | [] => k.failPeeked .endInValue
  | 't' :: _ => let k ← readWord ['r', 'u', 'e'] k.next; .ok (true, k)
  | 'f' :: _ => let k ← readWord ['a', 'l', 's', 'e'] k.next; .ok (false, k)
  | _ => wrongType "a boolean" k

/-- Reads a number and takes it up as the shape asks. -/
def readNumeric {α : Type} (expected : String) (take : Json → Except Mismatch α) (k : Cursor) :
    Except Error (α × Cursor) := do
  let k := k.skipBlanks
  let finish (n : Number) (k : Cursor) : Except Error (α × Cursor) :=
    match take n.toJson with
    | .ok x => .ok (x, k)
    | .error m => k.fail (.mismatch m)
  match k.rest with
  | [] => k.failPeeked .endInValue
  | '-' :: _ =>
      let (n, k) ← readNumber true k.next
      finish n k
  | c :: _ =>
      if c.isDigit then
        let (n, k) ← readNumber false k
        finish n k
      else wrongType expected k

/-- Reads the members of an object of texts. -/
def readLabels : Nat → Bool → Cursor → Except Error (List (String × String) × Cursor)
  | 0, _, k => k.fail .tooDeep
  | fuel + 1, first, k => do
      let (more, k) ← hasKey first k
      if more then
        let (key, k) ← readString k.next
        let k ← afterColon k
        let (v, k) ← readText k
        let (vs, k) ← readLabels fuel false k
        .ok ((key, v) :: vs, k)
      else .ok ([], k)

mutual

/-- Reads a value of the shape; `depth` levels of brackets are left. -/
def readShape : Nat → (depth : Nat) → (s : Shape) → Cursor → Except Error (s.Value × Cursor)
  | 0, _, _, k => k.fail .tooDeep
  | _ + 1, _, .text, k => readText k
  | _ + 1, _, .flag, k => readFlag k
  | _ + 1, _, .count, k => readNumeric "i64" (decode · .count) k
  | _ + 1, _, .number, k => readNumeric "f64" (decode · .number) k
  | fuel + 1, depth, .labels, k => do
      let k := k.skipBlanks
      match k.rest with
      | [] => k.failPeeked .endInValue
      | '{' :: _ =>
          let k ← enter depth k
          let (entries, k) ← readLabels fuel true k
          let k ← endObject k
          .ok (sortEntries entries, k)
      | _ => wrongType "a map" k
  | fuel + 1, depth, .free, k => do
      let k := k.skipBlanks
      match k.rest with
      | [] => k.failPeeked .endInValue
      | '{' :: _ =>
          let k ← enter depth k
          let (entries, k) ← readAnyMembers fuel (depth - 1) true k
          let k ← endObject k
          .ok (sortEntries entries, k)
      | _ => wrongType "a map" k
  | fuel + 1, depth, .list item, k => do
      let k := k.skipBlanks
      match k.rest with
      | [] => k.failPeeked .endInValue
      | '[' :: _ =>
          let k ← enter depth k
          let (items, k) ← readElements fuel (depth - 1) item true k
          let k ← endList k
          .ok (items, k)
      | _ => wrongType "a sequence" k
  | fuel + 1, depth, .record r, k => do
      let k := k.skipBlanks
      match k.rest with
      | [] => k.failPeeked .endInValue
      | '{' :: _ =>
          let k ← enter depth k
          match r.inlined with
          | none =>
              let (d, k) ← readMembers fuel (depth - 1) r [] r.blank true k
              let k ← endObject k
              .ok (r.finish d, k)
          | some flat =>
              let (d, others, k) ← readFlatMembers fuel (depth - 1) r [] r.blank true k
              match decodeEntries others flat.record [] flat.record.blank with
              | .error m => failObject k m
              | .ok inner =>
                  let k ← endObject k
                  .ok (r.finish (flat.put (flat.record.finish inner) d), k)
      | '[' :: _ =>
          match r.inlined with
          | some _ => wrongType r.title k
          | none =>
              let k ← enter depth k
              let (d, k) ← readSlots fuel (depth - 1) r r.slots r.blank true k
              let k ← endList k
              .ok (r.finish d, k)
      | _ => wrongType r.title k

/-- Reads the elements of a list. -/
def readElements : Nat → (depth : Nat) → (s : Shape) → Bool → Cursor →
    Except Error (List s.Value × Cursor)
  | 0, _, _, _, k => k.fail .tooDeep
  | fuel + 1, depth, s, first, k => do
      let (more, k) ← hasElement first k
      if more then
        let (v, k) ← readShape fuel depth s k
        let (vs, k) ← readElements fuel depth s false k
        .ok (v :: vs, k)
      else .ok ([], k)

/-- Reads the value of a slot into a draft. -/
def readSlot : Nat → (depth : Nat) → (r : Record) → Slot r.Draft → r.Draft → Cursor →
    Except Error (r.Draft × Cursor)
  | 0, _, _, _, _, k => k.fail .tooDeep
  | fuel + 1, depth, _, slot, d, k => do
      let k := k.skipBlanks
      match slot.nullable, k.rest with
      | true, 'n' :: _ =>
          let k ← readWord ['u', 'l', 'l'] k.next
          .ok (d, k)
      | _, _ =>
          let (v, k) ← readShape fuel depth slot.shape k
          .ok (slot.put v d, k)

/-- Reads the members of a record; the keys `seen` are taken. -/
def readMembers : Nat → (depth : Nat) → (r : Record) → (seen : List String) → r.Draft → Bool →
    Cursor → Except Error (r.Draft × Cursor)
  | 0, _, _, _, _, _, k => k.fail .tooDeep
  | fuel + 1, depth, r, seen, d, first, k => do
      let (more, k) ← hasKey first k
      if more then
        let (key, k) ← readString k.next
        match Slot.named? key r.slots with
        | none =>
            let k ← afterColon k
            let k ← skipValue fuel k
            readMembers fuel depth r seen d false k
        | some slot =>
            if seen.contains key then failObject k (.duplicateField key)
            else
              let k ← afterColon k
              let (d, k) ← readSlot fuel depth r slot d k
              readMembers fuel depth r (key :: seen) d false k
      else .ok (d, k)

/-- Reads the members of a record that holds another one flat: its own slots, and the entries of
all other keys. -/
def readFlatMembers : Nat → (depth : Nat) → (r : Record) → (seen : List String) → r.Draft →
    Bool → Cursor → Except Error (r.Draft × List (String × Json) × Cursor)
  | 0, _, _, _, _, _, k => k.fail .tooDeep
  | fuel + 1, depth, r, seen, d, first, k => do
      let (more, k) ← hasKey first k
      if more then
        let (key, k) ← readString k.next
        match Slot.named? key r.slots with
        | none =>
            let k ← afterColon k
            let (v, k) ← readAny fuel depth k
            let (d, others, k) ← readFlatMembers fuel depth r seen d false k
            .ok (d, (key, v) :: others, k)
        | some slot =>
            if seen.contains key then failObject k (.duplicateField key)
            else
              let k ← afterColon k
              let (d, k) ← readSlot fuel depth r slot d k
              readFlatMembers fuel depth r (key :: seen) d false k
      else .ok (d, [], k)

/-- Reads the elements of an array into slots, in order. -/
def readSlots : Nat → (depth : Nat) → (r : Record) → List (Slot r.Draft) → r.Draft → Bool →
    Cursor → Except Error (r.Draft × Cursor)
  | 0, _, _, _, _, _, k => k.fail .tooDeep
  | _ + 1, _, _, [], d, _, k => .ok (d, k)
  | fuel + 1, depth, r, slot :: slots, d, first, k => do
      let (more, k) ← hasElement first k
      if more then
        let (d, k) ← readSlot fuel depth r slot d k
        readSlots fuel depth r slots d false k
      else .ok (d, k)

end

/-- A fuel that no reader of the text exhausts: each step but a few uses up a character. -/
def fuelFor (text : String) : Nat := 4 * text.length + 32

/-- The end of the text. -/
def atEnd (k : Cursor) : Except Error Unit :=
  let k := k.skipBlanks
  match k.rest with
  | [] => .ok ()
  | _ => k.failPeeked .trailingCharacters

/-- The most levels of brackets that may be open at once, and one. -/
def depthLimit : Nat := 128

/-- Reads a whole text as a value of a shape. -/
def readAs (s : Shape) (text : String) : Except Error s.Value := do
  let (v, k) ← readShape (fuelFor text) depthLimit s (.start text)
  atEnd k
  .ok v

/-- Reads a whole text as any value. -/
def read (text : String) : Except Error Json := do
  let (v, k) ← readAny (fuelFor text) depthLimit (.start text)
  atEnd k
  .ok v

end EntryForm.Json
