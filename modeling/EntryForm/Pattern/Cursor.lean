import EntryForm.Pattern.Fault
import EntryForm.Text.Blank

/-!
# Patterns — cursors

A cursor is a place in a pattern and what is left of it.  Where the flag for it is set, blanks and
comments between the parts are passed over (`skipSpace`).
-/

namespace EntryForm.Pattern

/-- A place in a pattern, what is left of it, and whether blanks are passed over. -/
structure Cursor where
  rest : List Char
  place : Place := {}
  spaced : Bool := false

namespace Cursor

/-- The start of a pattern. -/
def start (text : String) : Cursor := { rest := text.toList }

/-- Nothing is left. -/
def atEnd (k : Cursor) : Bool := k.rest.isEmpty

/-- The next character is `c`. -/
def sees (k : Cursor) (c : Char) : Bool := k.rest.head? == some c

/-- The place after the character `c`. -/
def after (p : Place) (c : Char) : Place :=
  if c = '\n' then ⟨p.index + 1, p.line + 1, 1⟩ else ⟨p.index + 1, p.line, p.column + 1⟩

/-- Beyond the next character. -/
def next (k : Cursor) : Cursor :=
  match k.rest with
  | [] => k
  | c :: rest => { k with rest, place := after k.place c }

/-- Beyond `n` characters. -/
def skip : Nat → Cursor → Cursor
  | 0, k => k
  | n + 1, k => skip n k.next

/-- The empty span at the cursor. -/
def here (k : Cursor) : Span := .point k.place

/-- The span of the next character. -/
def charSpan (k : Cursor) : Span := ⟨k.place, k.next.place⟩

/-- The span from a place to the cursor. -/
def since (k : Cursor) (p : Place) : Span := ⟨p, k.place⟩

/-- A fault at a span. -/
def fail {α : Type} (kind : Fault.Kind) (span : Span) : Except Fault α := .error { kind, span }

/-- Beyond the characters from `cs` on for which `p` holds. -/
def dropWhile (p : Char → Bool) : List Char → Cursor → Cursor
  | [], k => k
  | c :: cs, k => if p c then dropWhile p cs k.next else k

/-- Beyond the characters for which `p` holds. -/
def skipWhile (k : Cursor) (p : Char → Bool) : Cursor := dropWhile p k.rest k

/-- Beyond blanks and comments; a comment goes on from a hash to the end of the line. -/
def dropSpace : List Char → (comment : Bool) → Cursor → Cursor
  | [], _, k => k
  | c :: cs, true, k => dropSpace cs (c != '\n') k.next
  | c :: cs, false, k =>
      if Text.isBlankChar c then dropSpace cs false k.next
      else if c == '#' then dropSpace cs true k.next
      else k

/-- Beyond blanks and comments, where they are passed over. -/
def skipSpace (k : Cursor) : Cursor := if k.spaced then dropSpace k.rest false k else k

/-- Beyond the next character, and blanks. -/
def advance (k : Cursor) : Cursor := k.next.skipSpace

/-- Beyond a text, if it comes next. -/
def take? (k : Cursor) (text : String) : Option Cursor :=
  let cs := text.toList
  if cs.isPrefixOf k.rest then some (skip cs.length k) else none

/-- The character after the next one. -/
def second? (k : Cursor) : Option Char := k.rest[1]?

/-- The character after the next one that is not blank; a hash before it is passed over. -/
def secondSolid? (k : Cursor) : Option Char :=
  if !k.spaced then k.second?
  else
    let solid := (k.rest.drop 1).dropWhile Text.isBlankChar
    let solid :=
      match solid with
      | '#' :: cs => cs.dropWhile Text.isBlankChar
      | cs => cs
    (solid.head?).or k.second?

end Cursor

end EntryForm.Pattern
