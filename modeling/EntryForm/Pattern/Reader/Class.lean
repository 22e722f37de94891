import EntryForm.Pattern.Reader.Escape

/-!
# Patterns — reading a class in brackets

A class is read with the classes around it on a stack, together with the operators whose right
side is not read yet.  A bracket that closes nothing yet is a character: a closing one at the
beginning, and hyphens before it.
-/

namespace EntryForm.Pattern

open Cursor

/-- The items of a class read so far, the last one first, and the stretch they take up. -/
structure Items where
  start : Place
  stop : Place
  items : List ClassSet := []

namespace Items

/-- No items, at a place. -/
def none (p : Place) : Items := { start := p, stop := p }

/-- Another item. -/
def push (u : Items) (item : ClassSet) : Items where
  start := if u.items.isEmpty then item.span.start else u.start
  stop := item.span.stop
  items := item :: u.items

/-- The items side by side. -/
def toSet (u : Items) : ClassSet :=
  match u.items with
  | [] => .empty ⟨u.start, u.stop⟩
  | [item] => item
  | items => .union ⟨u.start, u.stop⟩ items.reverse

end Items

/-- What is not finished yet while a class is read. -/
inductive ClassFrame where
  /-- A bracket, with the items before it. -/
  | opened (outer : Items) (span : Span) (negated : Bool)
  /-- An operator, with its left side. -/
  | operator (op : Operator) (left : ClassSet)

/-- Gives a class to the operator that waits for it, if one does. -/
def joinLast (right : ClassSet) : List ClassFrame → ClassSet × List ClassFrame
  | .operator op left :: rest =>
      (.joined ⟨left.span.start, right.span.stop⟩ op left right, rest)
  | frames => (right, frames)

/-- The fault of a class that is not closed: the innermost one is shown. -/
def unclosed {α : Type} (k : Cursor) : List ClassFrame → Except Fault α
  | .opened _ span _ :: _ => fail .classUnclosed span
  | .operator _ _ :: rest => unclosed k rest
  | [] => fail .classUnclosed k.here

/-- Reads hyphens at the beginning of a class that began at `start`. -/
def readHyphens (start : Place) : Nat → Items → Cursor → Except Fault (Items × Cursor)
  | 0, u, k => .ok (u, k)
  | fuel + 1, u, k =>
      if k.sees '-' then
        let u := u.push (.literal { span := k.charSpan, char := '-' })
        let k := k.advance
        if k.atEnd then fail .classUnclosed (.point start) else readHyphens start fuel u k
      else .ok (u, k)

/-- Reads an opening bracket and what may follow it only there. -/
def openClass (outer : Items) (k : Cursor) : Except Fault (ClassFrame × Items × Cursor) := do
  let start := k.place
  let k := k.advance
  if k.atEnd then fail .classUnclosed (k.since start)
  else
    let negated := k.sees '^'
    let k := if negated then k.advance else k
    if k.atEnd then fail .classUnclosed (k.since start)
    else
      let (u, k) ← readHyphens start k.rest.length (.none k.place) k
      if u.items.isEmpty && k.sees ']' then
        let u := u.push (.literal { span := k.charSpan, char := ']' })
        let k := k.advance
        if k.atEnd then fail .classUnclosed (k.since start)
        else .ok (.opened outer (k.since start) negated, u, k)
      else .ok (.opened outer (k.since start) negated, u, k)

/-- Reads a named class, if one comes next. -/
def readNamed? (k : Cursor) : Option (ClassSet × Cursor) :=
  match k.take? "[:" with
  | none => none
  | some inner =>
      let negated := inner.sees '^'
      let inner := if negated then inner.next else inner
      let name := inner.rest.takeWhile (· != ':')
      match (inner.skip name.length).take? ":]", Named.ofName? (String.ofList name) with
      | some stop, some n => some (.named (stop.since k.place) n negated, stop)
      | _, _ => none

/-- Reads a character or an escape in a class. -/
def readItem (k : Cursor) : Except Fault (Node × Cursor) :=
  match k.rest with
  | [] => fail .escapeEnd k.here
  | c :: _ =>
      if c = '\\' then readEscape k
      else .ok (.literal { span := k.charSpan, char := c }, k.next)

/-- What was read, as an item of a class. -/
def Node.toItem : Node → Except Fault ClassSet
  | .literal l => .ok (.literal l)
  | .shorthand span kind negated => .ok (.shorthand span kind negated)
  | .property span query negated => .ok (.property span query negated)
  | n => fail .classEscape n.span

/-- What was read, as an end of a range. -/
def Node.toBound : Node → Except Fault Literal
  | .literal l => .ok l
  | n => fail .classRangeLiteral n.span

/-- Reads an item or a range. -/
def readRange (frames : List ClassFrame) (k : Cursor) : Except Fault (ClassSet × Cursor) := do
  let (low, k) ← readItem k
  let k := k.skipSpace
  if k.atEnd then unclosed k frames
  else if !k.sees '-' || k.secondSolid? == some ']' || k.secondSolid? == some '-' then
    .ok (← low.toItem, k)
  else
    let k := k.advance
    if k.atEnd then unclosed k frames
    else
      let (high, k) ← readItem k
      let span : Span := ⟨low.span.start, high.span.stop⟩
      let low ← low.toBound
      let high ← high.toBound
      if high.char < low.char then fail .classRange span else .ok (.range span low high, k)

/-- The operator that comes next. -/
def operator? (k : Cursor) : Option Operator :=
  match k.rest with
  | '&' :: '&' :: _ => some .intersection
  | '-' :: '-' :: _ => some .difference
  | '~' :: '~' :: _ => some .symmetricDifference
  | _ => none

/-- Reads the rest of a class; at the beginning there is no frame, and the cursor stands at the
opening bracket. -/
def readClassFrom : Nat → List ClassFrame → Items → Cursor → Except Fault (Node × Cursor)
  | 0, frames, _, k => unclosed k frames
  | fuel + 1, frames, u, k => do
      let k := k.skipSpace
      if k.atEnd then unclosed k frames
      else if k.sees '[' then
        match if frames.isEmpty then none else readNamed? k with
        | some (item, k) => readClassFrom fuel frames (u.push item) k
        | none =>
            let (frame, u, k) ← openClass u k
            readClassFrom fuel (frame :: frames) u k
      else if k.sees ']' then
        let (set, frames) := joinLast u.toSet frames
        match frames with
        | .opened outer span negated :: frames =>
            let k := k.next
            let span := k.since span.start
            if frames.isEmpty then .ok (.bracketed span negated set, k)
            else readClassFrom fuel frames (outer.push (.bracketed span negated set)) k
        | frames => unclosed k frames
      else
        match operator? k with
        | some op =>
            let (left, frames) := joinLast u.toSet frames
            let k := k.skip 2
            readClassFrom fuel (.operator op left :: frames) (.none k.place) k
        | none =>
            let (item, k) ← readRange frames k
            readClassFrom fuel frames (u.push item) k

/-- Reads a class in brackets; the cursor stands at the opening one. -/
def readClass (k : Cursor) : Except Fault (Node × Cursor) :=
  readClassFrom (k.rest.length + 1) [] (.none k.place) k

end EntryForm.Pattern
