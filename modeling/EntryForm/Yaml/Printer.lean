import EntryForm.Yaml.Printer.Scalar

/-!
# YAML — writing

A value in block style: an entry of a mapping or an element of a sequence on a line of its own,
two columns deeper than what holds it, but a sequence that is an entry's value stands no deeper
than the entry.  An empty sequence or mapping is written in brackets.  A key that is long or has
line breaks stands behind a question mark.
-/

namespace EntryForm.Yaml

/-- The indentation inside a collection; `indent` is that around it, if there is any. -/
def deeper : (indent : Option Nat) → Nat
  | none => 0
  | some n => n + 2

/-- A key that may stand before its colon on one line. -/
def isSimpleKey (key : String) : Bool :=
  key.utf8ByteSize ≤ 128 && !key.toList.any isBreakChar

/-- Writes a key and its colon. -/
def writeKey (indent : Nat) (key : String) (s : Sheet) : Sheet :=
  let s := s.startLine indent
  if isSimpleKey key then (s.putText (indent + 2) key).close [':']
  else (((s.lead '?').putText (indent + 2) key).startLine indent).lead ':'

mutual

/-- Writes a value.  `indent` is the indentation around it; `entry` holds for the value of an
entry. -/
def writeValue (indent : Option Nat) (entry : Bool) : Json → Sheet → Sheet
  | .null, s => s.mark "null".toList
  | .bool b, s => s.mark (toString b).toList
  | .int n, s => s.mark (toString n).toList
  | .float x, s => s.mark (Decimal.write .yaml x).toList
  | .str text, s => s.putText (deeper indent) text
  | .arr [], s => s.mark ['[', ']']
  | .arr items, s =>
      writeItems (if entry && !s.fresh then indent.getD 0 else deeper indent) items s
  | .obj [], s => s.mark ['\x7b', '\x7d']
  | .obj entries, s => writeEntries (deeper indent) entries s

/-- Writes the elements of a sequence. -/
def writeItems (indent : Nat) : List Json → Sheet → Sheet
  | [], s => s
  | v :: rest, s =>
      writeItems indent rest (writeValue (some indent) false v ((s.startLine indent).lead '-'))

/-- Writes the entries of a mapping. -/
def writeEntries (indent : Nat) : List (String × Json) → Sheet → Sheet
  | [], s => s
  | (key, v) :: rest, s =>
      writeEntries indent rest (writeValue (some indent) true v (writeKey indent key s))

end

/-- The text of a value, with its last line ended. -/
def write (v : Json) : String := ((writeValue none false v {}).startLine 0).text

end EntryForm.Yaml
