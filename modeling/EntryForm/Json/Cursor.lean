/-!
# JSON — cursors

A cursor is a place in a text: what is left of it, and the line and column reached.  Lines count
from one; a column is the number of bytes of the line that are passed.  A fault is reported either
at the cursor or one byte further on (`peeked`), where a line end begins a line.
-/

namespace EntryForm.Json

/-- A place in a text. -/
structure Cursor where
  rest : List Char
  line : Nat := 1
  column : Nat := 0

/-- A line and a column. -/
structure Position where
  line : Nat
  column : Nat
  deriving DecidableEq, Repr

namespace Cursor

/-- The start of a text. -/
def start (s : String) : Cursor := { rest := s.toList }

/-- Where the cursor is. -/
def here (k : Cursor) : Position := ⟨k.line, k.column⟩

/-- One byte beyond the cursor, or at the end of the text. -/
def peeked (k : Cursor) : Position :=
  match k.rest with
  | [] => ⟨k.line, k.column⟩
  | c :: _ => if c = '\n' then ⟨k.line + 1, 0⟩ else ⟨k.line, k.column + 1⟩

/-- Beyond the character `c`, with `rest` left. -/
def past (k : Cursor) (c : Char) (rest : List Char) : Cursor :=
  if c = '\n' then ⟨rest, k.line + 1, 0⟩ else ⟨rest, k.line, k.column + c.utf8Size⟩

/-- Beyond the next character, if there is one. -/
def next (k : Cursor) : Cursor :=
  match k.rest with
  | [] => k
  | c :: rest => k.past c rest

/-- Beyond the characters from `cs` on for which `p` holds. -/
def dropWhile (p : Char → Bool) : List Char → Cursor → Cursor
  | [], k => k
  | c :: rest, k => if p c then dropWhile p rest (k.past c rest) else k

/-- JSON's four blanks. -/
def isBlank (c : Char) : Bool := c == ' ' || c == '\n' || c == '\t' || c == '\r'

/-- Beyond the blanks. -/
def skipBlanks (k : Cursor) : Cursor := dropWhile isBlank k.rest k

/-- Beyond the digits. -/
def skipDigits (k : Cursor) : Cursor := dropWhile Char.isDigit k.rest k

end Cursor

end EntryForm.Json
