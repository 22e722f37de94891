import EntryForm.Yaml.Error
import EntryForm.Yaml.Scalar
import EntryForm.Wire.Decode

/-!
# YAML — reading a text

A document is read as a value of a shape, event by event.  An alias is read as the event it
repeats; a skipped value's aliases are not followed.  Nothing at all, or an empty plain scalar,
stands for an empty list, map or record.  A text takes every scalar as it is written, a number or
a truth value only a plain one.

A record that holds another one flat gathers the values of the other keys first and decodes them
afterwards.  Sequences and mappings nest at most 128 deep.  The readers are bounded by a fuel that
no document exhausts (`fuelFor`).
-/

namespace EntryForm.Yaml

open Wire

/-- How far a document is read: the number of the next event, and the aliases followed. -/
structure Progress where
  next : Nat := 0
  jumps : Nat := 0

/-- Beyond the next event. -/
def Progress.step (p : Progress) : Progress := { p with next := p.next + 1 }

/-- The next event. -/
def Document.peek (d : Document) (p : Progress) : Except Error Entry :=
  match d.entries[p.next]? with
  | some e => .ok e
  | none =>
      match d.fault with
      | some cause => .error (.broken cause)
      | none => .error .endOfDocument

/-- A value about to be read: its first event, where that is, and where to go on afterwards if it
is read through an alias. -/
structure Opened where
  entry : Entry
  start : Progress
  back : Option Nat := none

/-- The next value, with an alias followed. -/
def Document.opening (d : Document) (p : Progress) : Except Error Opened := do
  let e ← d.peek p
  match e.kind with
  | .alias number =>
      if p.jumps + 1 > 100 * d.entries.size then .error .tooManyRepeats
      else
        match d.anchors.lookup number with
        | none => .error (.broken (.unknownAnchor e.mark))
        | some target =>
            let start : Progress := ⟨target, p.jumps + 1⟩
            .ok { entry := ← d.peek start, start, back := some (p.next + 1) }
  | _ => .ok { entry := e, start := p }

namespace Opened

/-- Beyond the first event. -/
def inside (o : Opened) : Progress := o.start.step

/-- Where to go on when the value has been read up to `p`. -/
def leave (o : Opened) (p : Progress) : Progress :=
  match o.back with
  | none => p
  | some next => { p with next }

/-- A mismatch of the value itself or, if it is not placed, in it. -/
def place {α : Type} (o : Opened) (path : Path) (r : Except Error α) : Except Error α :=
  r.mapError (·.placed path o.entry.mark)

/-- The value is not of the kind expected. -/
def misfit {α : Type} (o : Opened) (path : Path) (expected : String) : Except Error α :=
  let m : Mismatch :=
    match o.entry.kind with
    | .scalar text style =>
        match Meaning.ofScalar text style o.entry.tag with
        | .ok meaning => .invalidType meaning.found expected
        | .error m => m
    | .sequenceStart | .sequenceEnd => .invalidType .seq expected
    | .mappingStart | .mappingEnd => .invalidType .map expected
    | .void | .alias _ => .invalidType .unit expected
  o.place path (.error (.mismatch m none))

/-- The depth left inside a sequence or mapping. -/
def descend (o : Opened) (depth : Nat) : Except Error Nat :=
  if depth = 0 then .error (.tooDeep o.entry.mark) else .ok (depth - 1)

end Opened

/-- Nothing at all, or an empty plain scalar. -/
def Entry.isBlank (e : Entry) : Bool :=
  match e.kind with
  | .void => true
  | .scalar text .plain => text.isEmpty
  | _ => false

/-- The value stands for an absent one. -/
def Entry.isAbsent (e : Entry) : Except Error Bool :=
  match e.kind, e.tag with
  | .void, _ => .ok true
  | .scalar text .plain, none => .ok (text.isEmpty || Meaning.isNull text)
  | .scalar text .plain, some tag =>
      if tag != Meaning.nullTag then .ok false
      else if Meaning.isNull text then .ok true
      else .error (.mismatch (.invalidValue (.str text) "null") none)
  | _, _ => .ok false

/-- A tag of the document's own. -/
def Entry.hasOwnTag (e : Entry) : Bool :=
  match e.tag with
  | some tag => tag.toList.head? == some '!'
  | none => false

/-- The path of the value under a key; a key that is no scalar has no name. -/
def keyPath (path : Path) (key : Entry) : Path :=
  match key.kind with
  | .scalar text _ => path.field text
  | _ => path.field "?"

/-! ### Scalars -/

/-- Reads a text. -/
def readText (d : Document) (path : Path) (expected : String) (p : Progress) :
    Except Error (String × Progress) := do
  let o ← d.opening p
  match o.entry.kind with
  | .scalar text _ => .ok (text, o.leave o.inside)
  | _ => o.misfit path expected

/-- Reads a scalar that is plain, or a literal block with the tag, and that `take` accepts. -/
def readPlain {α : Type} (d : Document) (path : Path) (tag expected : String)
    (take : String → Option α) (p : Progress) : Except Error (α × Progress) := do
  let o ← d.opening p
  match o.entry.kind with
  | .scalar text style =>
      if style == .plain || (style == .literal && o.entry.tag == some tag) then
        match take text with
        | some x => .ok (x, o.leave o.inside)
        | none => o.misfit path expected
      else o.misfit path expected
  | _ => o.misfit path expected

/-- The count that a text stands for. -/
def count? (text : String) : Option Count :=
  (Meaning.int? text).bind fun n => (countOfInt n).toOption

/-! ### Skipping -/

/-- Skips events until none of `nested` sequences and mappings is open. -/
def skipEntries (d : Document) : Nat → (nested : Nat) → Progress → Except Error Progress
  | 0, _, _ => .error .tooManyRepeats
  | fuel + 1, nested, p => do
      let e ← d.peek p
      let nested :=
        match e.kind with
        | .sequenceStart | .mappingStart => nested + 1
        | .sequenceEnd | .mappingEnd => nested - 1
        | _ => nested
      if nested = 0 then .ok p.step else skipEntries d fuel nested p.step

/-! ### Values of any shape -/

/-- What a value of any shape is read for. -/
inductive Purpose where
  /-- To be kept, as free data. -/
  | keep
  /-- To be decoded later, as a part of a record. -/
  | decode
  deriving DecidableEq

namespace Purpose

/-- The fault of a value with a tag of the document's own. -/
def tagged : Purpose → Mismatch
  | keep => .invalidType .enum "any valid JSON value"
  | decode => .other "untagged and internally tagged enums do not support enum input"

/-- The value of a scalar.  Numbers that are not finite are not kept. -/
def value (u : Purpose) : Meaning → Except Mismatch Json
  | .null => .ok .null
  | .bool b => .ok (.bool b)
  | .text s => .ok (.str s)
  | .int n =>
      if -Int.pow 2 63 ≤ n ∧ n < Int.pow 2 64 then .ok (.int n)
      else
        match u with
        | keep => .error (.other "JSON number out of range")
        | decode => .error (.invalidType (Meaning.foundInt n) "any value")
  | .float x => .ok (if u = keep ∧ !x.isFinite then .null else .float x)

/-- The value of a mapping.  No part of a record is a mapping, so that one that is to be decoded
later only has to be known as one. -/
def object : Purpose → List (String × Json) → Json
  | keep, entries => .obj (sortEntries entries)
  | decode, _ => .obj []

end Purpose

mutual

/-- Reads any value; `depth` levels may still be opened. -/
def readAny (d : Document) (u : Purpose) :
    Nat → (depth : Nat) → Path → Progress → Except Error (Json × Progress)
  | 0, _, _, _ => .error .tooManyRepeats
  | fuel + 1, depth, path, p => do
      let o ← d.opening p
      o.place path do
        if o.entry.hasOwnTag then .error (.mismatch u.tagged none)
        else
          match o.entry.kind with
          | .scalar text style =>
              match (Meaning.ofScalar text style o.entry.tag).bind u.value with
              | .ok v => .ok (v, o.leave o.inside)
              | .error m => .error (.mismatch m none)
          | .sequenceStart =>
              let depth ← o.descend depth
              let (items, p) ← readAnyElements d u fuel depth path 0 o.inside
              .ok (.arr items, o.leave p)
          | .mappingStart =>
              let depth ← o.descend depth
              let (entries, p) ← readAnyMembers d u fuel depth path true o.inside
              .ok (u.object entries, o.leave p)
          | _ => .ok (.null, o.leave o.inside)

/-- Reads the elements of a sequence, from number `i` on. -/
def readAnyElements (d : Document) (u : Purpose) :
    Nat → (depth : Nat) → Path → (i : Nat) → Progress → Except Error (List Json × Progress)
  | 0, _, _, _, _ => .error .tooManyRepeats
  | fuel + 1, depth, path, i, p => do
      let e ← d.peek p
      if e.kind = .sequenceEnd then .ok ([], p.step)
      else
        let (v, p) ← readAny d u fuel depth (path.index i) p
        let (vs, p) ← readAnyElements d u fuel depth path (i + 1) p
        .ok (v :: vs, p)

/-- Reads the entries of a mapping.  Keys that are to be kept are texts. -/
def readAnyMembers (d : Document) (u : Purpose) :
    Nat → (depth : Nat) → Path → (first : Bool) → Progress →
      Except Error (List (String × Json) × Progress)
  | 0, _, _, _, _ => .error .tooManyRepeats
  | fuel + 1, depth, path, first, p => do
      let e ← d.peek p
      if e.kind = .mappingEnd then .ok ([], p.step)
      else
        let (key, p) ←
          match u with
          | .keep => readText d path (if first then "a string key" else "a string") p
          | .decode => do
              let (_, p) ← readAny d u fuel depth path p
              pure ("", p)
        let (v, p) ← readAny d u fuel depth (keyPath path e) p
        let (vs, p) ← readAnyMembers d u fuel depth path false p
        .ok ((key, v) :: vs, p)

end

/-! ### Values of a shape -/

/-- Reads the entries of a mapping of texts. -/
def readLabels (d : Document) :
    Nat → Path → Progress → Except Error (List (String × String) × Progress)
  | 0, _, _ => .error .tooManyRepeats
  | fuel + 1, path, p => do
      let e ← d.peek p
      if e.kind = .mappingEnd then .ok ([], p.step)
      else
        let (key, p) ← readText d path "a string" p
        let (v, p) ← readText d (keyPath path e) "a string" p
        let (vs, p) ← readLabels d fuel path p
        .ok ((key, v) :: vs, p)

/-- Reads the entries of a mapping of free data. -/
def readFree (d : Document) :
    Nat → (depth : Nat) → Path → Progress → Except Error (List (String × Json) × Progress)
  | 0, _, _, _ => .error .tooManyRepeats
  | fuel + 1, depth, path, p => do
      let e ← d.peek p
      if e.kind = .mappingEnd then .ok ([], p.step)
      else
        let (key, p) ← readText d path "a string" p
        let (v, p) ← readAny d .keep fuel depth (keyPath path e) p
        let (vs, p) ← readFree d fuel depth path p
        .ok ((key, v) :: vs, p)

/-- Reads a mapping, or what stands for an empty one. -/
def readMapping {α : Type} (o : Opened) (depth : Nat) (path : Path) (expected : String)
    (empty : α) (read : (depth : Nat) → Progress → Except Error (α × Progress)) :
    Except Error (α × Progress) := do
  if o.entry.isBlank then .ok (empty, o.leave o.inside)
  else if o.entry.kind = .mappingStart then
    let depth ← o.descend depth
    let (x, p) ← o.place path (read depth o.inside)
    .ok (x, o.leave p)
  else o.misfit path expected

mutual

/-- Reads a value of the shape; `depth` levels may still be opened. -/
def readShape (d : Document) :
    Nat → (depth : Nat) → Path → (s : Shape) → Progress → Except Error (s.Value × Progress)
  | 0, _, _, _, _ => .error .tooManyRepeats
  | _ + 1, _, path, .text, p => readText d path "a string" p
  | _ + 1, _, path, .flag, p => readPlain d path Meaning.boolTag "a boolean" Meaning.bool? p
  | _ + 1, _, path, .count, p => readPlain d path Meaning.intTag "i64" count? p
  | _ + 1, _, path, .number, p => readPlain d path Meaning.floatTag "f64" Meaning.float? p
  | fuel + 1, depth, path, .labels, p => do
      let o ← d.opening p
      let (entries, p) ← readMapping o depth path "a map" [] fun _ p => readLabels d fuel path p
      .ok (sortEntries entries, p)
  | fuel + 1, depth, path, .free, p => do
      let o ← d.opening p
      let (entries, p) ← readMapping o depth path "a map" [] fun depth p =>
        readFree d fuel depth path p
      .ok (sortEntries entries, p)
  | fuel + 1, depth, path, .list item, p => do
      let o ← d.opening p
      if o.entry.isBlank then .ok ([], o.leave o.inside)
      else if o.entry.kind = .sequenceStart then
        let depth ← o.descend depth
        let (items, p) ← o.place path (readElements d fuel depth path item 0 o.inside)
        .ok (items, o.leave p)
      else o.misfit path "a sequence"
  | fuel + 1, depth, path, .record r, p => do
      let o ← d.opening p
      match r.inlined with
      | none =>
          let (draft, p) ← readMapping o depth path r.title r.blank fun depth p =>
            readMembers d fuel depth path r [] r.blank p
          .ok (r.finish draft, p)
      | some flat =>
          let blank := flat.put (flat.record.finish flat.record.blank) r.blank
          let (draft, p) ← readMapping o depth path r.title blank fun depth p => do
            let (draft, others, p) ← readFlatMembers d fuel depth path r [] r.blank p
            match decodeEntries others flat.record [] flat.record.blank with
            | .ok inner => .ok (flat.put (flat.record.finish inner) draft, p)
            | .error m => .error (.mismatch m none)
          .ok (r.finish draft, p)

/-- Reads the elements of a sequence, from number `i` on. -/
def readElements (d : Document) :
    Nat → (depth : Nat) → Path → (s : Shape) → (i : Nat) → Progress →
      Except Error (List s.Value × Progress)
  | 0, _, _, _, _, _ => .error .tooManyRepeats
  | fuel + 1, depth, path, s, i, p => do
      let e ← d.peek p
      if e.kind = .sequenceEnd then .ok ([], p.step)
      else
        let (v, p) ← readShape d fuel depth (path.index i) s p
        let (vs, p) ← readElements d fuel depth path s (i + 1) p
        .ok (v :: vs, p)

/-- Reads the value of a slot into a draft. -/
def readSlot (d : Document) :
    Nat → (depth : Nat) → Path → (r : Record) → Slot r.Draft → r.Draft → Progress →
      Except Error (r.Draft × Progress)
  | 0, _, _, _, _, _, _ => .error .tooManyRepeats
  | fuel + 1, depth, path, _, slot, draft, p => do
      if slot.nullable then
        let o ← d.opening p
        if ← o.entry.isAbsent then .ok (draft, o.leave o.inside)
        else
          let (v, p) ← readShape d fuel depth path slot.shape o.start
          .ok (slot.put v draft, o.leave p)
      else
        let (v, p) ← readShape d fuel depth path slot.shape p
        .ok (slot.put v draft, p)

/-- Reads the entries of a record; the keys `seen` are taken. -/
def readMembers (d : Document) :
    Nat → (depth : Nat) → Path → (r : Record) → (seen : List String) → r.Draft → Progress →
      Except Error (r.Draft × Progress)
  | 0, _, _, _, _, _, _ => .error .tooManyRepeats
  | fuel + 1, depth, path, r, seen, draft, p => do
      let e ← d.peek p
      if e.kind = .mappingEnd then .ok (draft, p.step)
      else
        let (key, p) ← readText d path "field identifier" p
        match Slot.named? key r.slots with
        | none =>
            let p ← skipEntries d fuel 0 p
            readMembers d fuel depth path r seen draft p
        | some slot =>
            if seen.contains key then .error (.mismatch (.duplicateField key) none)
            else
              let (draft, p) ← readSlot d fuel depth (keyPath path e) r slot draft p
              readMembers d fuel depth path r (key :: seen) draft p

/-- Reads the entries of a record that holds another one flat: its own slots, and the values of
all other keys. -/
def readFlatMembers (d : Document) :
    Nat → (depth : Nat) → Path → (r : Record) → (seen : List String) → r.Draft → Progress →
      Except Error (r.Draft × List (String × Json) × Progress)
  | 0, _, _, _, _, _, _ => .error .tooManyRepeats
  | fuel + 1, depth, path, r, seen, draft, p => do
      let e ← d.peek p
      if e.kind = .mappingEnd then .ok (draft, [], p.step)
      else
        let (key, p) ← readText d path "field identifier" p
        match Slot.named? key r.slots with
        | none =>
            let (v, p) ← readAny d .decode fuel depth (keyPath path e) p
            let (draft, others, p) ← readFlatMembers d fuel depth path r seen draft p
            .ok (draft, (key, v) :: others, p)
        | some slot =>
            if seen.contains key then .error (.mismatch (.duplicateField key) none)
            else
              let (draft, p) ← readSlot d fuel depth (keyPath path e) r slot draft p
              readFlatMembers d fuel depth path r (key :: seen) draft p

end

/-- The most sequences and mappings that may be open at once. -/
def depthLimit : Nat := 128

/-- A fuel that no reader of the document exhausts: on each of at most `depthLimit` levels it goes
down once for every event and a few times more. -/
def fuelFor (d : Document) : Nat := 4 * depthLimit * (d.entries.size + 8)

/-- Reads a whole text as a value of a shape. -/
def readAs (s : Shape) (text : String) : Except Error s.Value := do
  let d := Document.ofText text
  let (v, _) ← readShape d (fuelFor d) depthLimit .root s {}
  match d.fault with
  | some cause => .error (.broken cause)
  | none => if d.more then .error .manyDocuments else .ok v

end EntryForm.Yaml
