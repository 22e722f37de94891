/-!
# YAML — the sheet written on

A text while it is written.  Whether an indicator needs a blank before it, and whether a line has
to be ended before the next one begins, follow from what was written last.
-/

namespace EntryForm.Yaml

/-- A text while it is written. -/
structure Sheet where
  /-- The characters written, the last one first. -/
  written : List Char := []
  column : Nat := 0
  /-- No blank is needed before what comes next. -/
  open_ : Bool := true
  /-- The line holds nothing but indentation and indicators that may stand in it. -/
  fresh : Bool := true

namespace Sheet

/-- The text. -/
def text (s : Sheet) : String := String.ofList s.written.reverse

/-- Writes a character of a line. -/
def put (s : Sheet) (c : Char) : Sheet :=
  { s with written := c :: s.written, column := s.column + 1 }

/-- Writes characters of a line. -/
def puts (s : Sheet) (cs : List Char) : Sheet := cs.foldl put s

/-- Writes a character that ends the line. -/
def putBreak (s : Sheet) (c : Char) : Sheet := { s with written := c :: s.written, column := 0 }

/-- Writes blanks up to a column. -/
def padTo (s : Sheet) (indent : Nat) : Sheet :=
  s.puts (List.replicate (indent - s.column) ' ')

/-- Begins a line with this indentation, unless the sheet stands there. -/
def startLine (s : Sheet) (indent : Nat) : Sheet :=
  let ended :=
    if !s.fresh || s.column > indent || (s.column == indent && !s.open_) then s.putBreak '\n' else s
  { ended.padTo indent with open_ := true, fresh := true }

/-- Writes a blank if one is needed. -/
def separate (s : Sheet) : Sheet := if s.open_ then s else s.put ' '

/-- Writes an indicator that closes what is before it. -/
def close (s : Sheet) (indicator : List Char) : Sheet :=
  { s.puts indicator with open_ := false, fresh := false }

/-- Writes an indicator apart from what is before it. -/
def mark (s : Sheet) (indicator : List Char) : Sheet := s.separate.close indicator

/-- Writes an indicator that a collection may begin behind, on the same line. -/
def lead (s : Sheet) (indicator : Char) : Sheet :=
  { s.separate.put indicator with open_ := false, fresh := s.fresh }

end Sheet

end EntryForm.Yaml
