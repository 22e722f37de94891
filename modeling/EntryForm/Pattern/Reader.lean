import EntryForm.Pattern.Reader.Class
import EntryForm.Pattern.Reader.Group

/-!
# Patterns — reading a regular expression

The parts of a pattern are read from left to right, with the groups around them on a stack.  At
the end the groups have to be closed and may nest only so deep: brackets, repetitions, groups,
alternations and parts in a row count.
-/

namespace EntryForm.Pattern

open Cursor

/-- A row of parts while it is read, and the branches before it. -/
structure Row where
  start : Place
  /-- The last part first. -/
  parts : List Node := []
  /-- The last branch first. -/
  branches : List Node := []
  /-- Where the first branch began. -/
  origin : Place

/-- A row that begins at a place. -/
def Row.at_ (p : Place) : Row := { start := p, origin := p }

namespace Row

/-- The row with another part. -/
def push (r : Row) (n : Node) : Row := { r with parts := n :: r.parts }

/-- The parts of the row, up to a place. -/
def node (r : Row) (stop : Place) : Node := .row ⟨r.start, stop⟩ r.parts.reverse

/-- The next branch, after a bar up to `stop` and at `p`. -/
def branch (r : Row) (stop p : Place) : Row :=
  { start := p, branches := r.node stop :: r.branches, origin := r.origin }

/-- The branches, up to a place. -/
def close (r : Row) (stop : Place) : Node :=
  if r.branches.isEmpty then r.node stop
  else .alternation ⟨r.origin, stop⟩ (r.node stop :: r.branches).reverse

end Row

/-- A group while it is read: the row around it, and whether blanks are passed over there. -/
structure Frame where
  outer : Row
  paren : Span
  opening : Opening
  spaced : Bool

/-- A pattern while it is read. -/
structure Reading where
  cursor : Cursor
  row : Row
  frames : List Frame := []
  names : List (String × Span) := []

/-- The part that a repetition repeats, and the parts before it. -/
def Reading.repeated (r : Reading) : Except Fault (Node × List Node) :=
  match r.row.parts with
  | .empty _ :: _ | .flags _ _ :: _ | [] => fail .repeatsNothing r.cursor.here
  | n :: rest => .ok (n, rest)

/-- Whether a question mark turns a repetition's preference around, and what comes after it. -/
def readLazily (k : Cursor) : Bool × Cursor :=
  if k.sees '?' then (true, k.next) else (false, k)

/-- Puts a repetition in the place of what it repeats. -/
def Reading.repeating (r : Reading) (n : Node) (rest : List Node) (least : Nat)
    (most : Option Nat) (lazily : Bool) (k : Cursor) : Reading :=
  let n : Node := .repetition ⟨n.span.start, k.place⟩ least most lazily n
  { r with cursor := k, row := { r.row with parts := n :: rest } }

/-- The digits from the cursor on, the last one first, and what they are followed by. -/
def readDigits : Nat → List Char → Cursor → List Char × Cursor
  | 0, read, k => (read, k)
  | fuel + 1, read, k =>
      match k.rest with
      | c :: _ => if c.isDigit then readDigits fuel (c :: read) k.advance else (read, k)
      | [] => (read, k)

/-- Reads a count, with blanks around it; `empty` is the fault if there is none. -/
def readCount (empty : Fault.Kind) (k : Cursor) : Except Fault Nat × Cursor :=
  let k := k.skipWhile Text.isBlankChar
  let (digits, stop) := readDigits k.rest.length [] k
  let span := stop.since k.place
  let n : Nat := digits.foldr (fun c n => n * 10 + (c.toNat - 48)) 0
  let result : Except Fault Nat :=
    if digits.isEmpty then fail empty span
    else if n < Nat.pow 2 32 then .ok n
    else fail .decimalInvalid span
  (result, (stop.skipWhile Text.isBlankChar).skipSpace)

/-- Reads a repetition in braces; the cursor stands at the opening one. -/
def Reading.counted (r : Reading) : Except Fault Reading := do
  let (n, rest) ← r.repeated
  let start := r.cursor.place
  let k := r.cursor.advance
  if k.atEnd then fail .countUnclosed (k.since start)
  else
    let (least, k) := readCount .countEmpty k
    if k.atEnd then fail .countUnclosed (k.since start)
    else
      let finish (least : Nat) (most : Option Nat) (k : Cursor) : Except Fault Reading :=
        if !k.sees '\x7d' then fail .countUnclosed (k.since start)
        else
          let (lazily, k) := readLazily k.advance
          match most with
          | some m =>
              if m < least then fail .countOrder (k.since start)
              else .ok (r.repeating n rest least most lazily k)
          | none => .ok (r.repeating n rest least most lazily k)
      if k.sees ',' then
        let k := k.advance
        if k.atEnd then fail .countUnclosed (k.since start)
        else if k.sees '\x7d' then finish (← least) none k
        else
          let low ← least
          let (most, k) := readCount .countEmpty k
          finish low (some (← most)) k
      else
        let n ← least
        finish n (some n) k

/-- Reads one part, or what begins or ends a group or a branch. -/
def Reading.step (r : Reading) : Except Fault Reading := do
  let k := r.cursor
  let span := k.charSpan
  let push (n : Node) (k : Cursor) : Reading := { r with cursor := k, row := r.row.push n }
  match k.rest with
  | [] => .ok r
  | '(' :: _ =>
      let (beginning, k) ← readBeginning r.names k
      match beginning with
      | .flags items =>
          let k := { k with spaced := (Flag.spaced.setBy? items false).getD k.spaced }
          .ok (push (.flags (k.since span.start) items) k)
      | .group opening name =>
          let spaced :=
            match opening with
            | .capture => k.spaced
            | .flags items => (Flag.spaced.setBy? items false).getD k.spaced
          .ok {
            cursor := { k with spaced }
            row := .at_ k.place
            frames := ⟨r.row, span, opening, k.spaced⟩ :: r.frames
            names := name.toList ++ r.names }
  | ')' :: _ =>
      match r.frames with
      | [] => fail .groupUnopened span
      | f :: frames =>
          let inner := r.row.close k.place
          let k := { k.next with spaced := f.spaced }
          .ok { r with
            cursor := k
            row := f.outer.push (.group (k.since f.paren.start) f.opening inner)
            frames }
  | '|' :: _ =>
      .ok { r with cursor := k.next, row := r.row.branch k.place k.next.place }
  | '[' :: _ => do
      let (n, k) ← readClass k
      .ok (push n k)
  | '?' :: _ =>
      let (n, rest) ← r.repeated
      let (lazily, k) := readLazily k.next
      .ok (r.repeating n rest 0 (some 1) lazily k)
  | '*' :: _ =>
      let (n, rest) ← r.repeated
      let (lazily, k) := readLazily k.next
      .ok (r.repeating n rest 0 none lazily k)
  | '+' :: _ =>
      let (n, rest) ← r.repeated
      let (lazily, k) := readLazily k.next
      .ok (r.repeating n rest 1 none lazily k)
  | '\x7b' :: _ => r.counted
  | '\\' :: _ =>
      let (n, k) ← readEscape k
      .ok (push n k)
  | '.' :: _ => .ok (push (.dot span) k.next)
  | '^' :: _ => .ok (push (.assertion span (.line false)) k.next)
  | '$' :: _ => .ok (push (.assertion span (.line true)) k.next)
  | c :: _ => .ok (push (.literal { span, char := c }) k.next)

/-- Reads parts until nothing is left. -/
def Reading.run : Nat → Reading → Except Fault Reading
  | 0, r => .ok r
  | fuel + 1, r => do
      let r := { r with cursor := r.cursor.skipSpace }
      if r.cursor.atEnd then .ok r else run fuel (← r.step)

/-! ### Nesting -/

/-- The most that may nest. -/
def nestLimit : Nat := 250

/-- One level deeper, if there may be one. -/
def deeper (depth : Nat) (span : Span) : Except Fault Nat :=
  if depth < nestLimit then .ok (depth + 1) else fail (.tooNested nestLimit) span

mutual

/-- A class does not nest too deep. -/
def ClassSet.checkDepth (depth : Nat) : ClassSet → Except Fault Unit
  | .bracketed span _ inner => do inner.checkDepth (← deeper depth span)
  | .union span items => do checkItemsDepth (← deeper depth span) items
  | .joined span _ left right => do
      let depth ← deeper depth span
      left.checkDepth depth
      right.checkDepth depth
  | _ => .ok ()

/-- None of some classes nests too deep. -/
def checkItemsDepth (depth : Nat) : List ClassSet → Except Fault Unit
  | [] => .ok ()
  | item :: rest => do
      item.checkDepth depth
      checkItemsDepth depth rest

end

mutual

/-- An expression does not nest too deep. -/
def Node.checkDepth (depth : Nat) : Node → Except Fault Unit
  | .bracketed span _ inner => do inner.checkDepth (← deeper depth span)
  | .repetition span _ _ _ inner => do inner.checkDepth (← deeper depth span)
  | .group span _ inner => do inner.checkDepth (← deeper depth span)
  | .alternation span branches => do checkNodesDepth (← deeper depth span) branches
  | .concat span parts => do checkNodesDepth (← deeper depth span) parts
  | _ => .ok ()

/-- None of some expressions nests too deep. -/
def checkNodesDepth (depth : Nat) : List Node → Except Fault Unit
  | [] => .ok ()
  | n :: rest => do
      n.checkDepth depth
      checkNodesDepth depth rest

end

/-- Reads a pattern. -/
def Node.read (text : String) : Except Fault Node := do
  let k := Cursor.start text
  let r ← Reading.run (k.rest.length + 1) { cursor := k, row := .at_ k.place }
  match r.frames with
  | f :: _ => fail .groupUnclosed f.paren
  | [] =>
      let n := r.row.close r.cursor.place
      n.checkDepth 0
      .ok n

end EntryForm.Pattern
