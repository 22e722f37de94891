import EntryForm.Json.Value
import EntryForm.Decimal.Style

/-!
# JSON — writing

A value as text, on one line or indented by two spaces a level.  In a string a quote, a backslash
and the control characters are escaped, the usual ones by letter.  A floating point number that is
not finite is written as null.
-/

namespace EntryForm.Json

/-- A character inside a string. -/
def escapeChar (c : Char) : List Char :=
  if c == '"' then ['\\', '"']
  else if c == '\\' then ['\\', '\\']
  else if c == '\n' then ['\\', 'n']
  else if c == '\r' then ['\\', 'r']
  else if c == '\t' then ['\\', 't']
  else if c.toNat == 8 then ['\\', 'b']
  else if c.toNat == 12 then ['\\', 'f']
  else if c.toNat < 0x20 then
    ['\\', 'u', '0', '0'] ++ (if c.toNat < 16 then ['0'] else []) ++ Nat.toDigits 16 c.toNat
  else [c]

/-- A string in quotes. -/
def writeString (s : String) : String :=
  "\"" ++ String.ofList (s.toList.flatMap escapeChar) ++ "\""

/-- A floating point number. -/
def writeFloat (x : Float) : String :=
  if x.isFinite then Decimal.write .json x else "null"

mutual

/-- The text on one line, without blanks. -/
def compact : Json → String
  | .null => "null"
  | .bool b => toString b
  | .int n => toString n
  | .float x => writeFloat x
  | .str s => writeString s
  | .arr items => "[" ++ ",".intercalate (compactItems items) ++ "]"
  | .obj entries => "\x7b" ++ ",".intercalate (compactEntries entries) ++ "\x7d"

def compactItems : List Json → List String
  | [] => []
  | v :: rest => compact v :: compactItems rest

def compactEntries : List (String × Json) → List String
  | [] => []
  | (key, v) :: rest => (writeString key ++ ":" ++ compact v) :: compactEntries rest

end

/-- A new line at a level of nesting. -/
def newLine (level : Nat) : String := "\n" ++ String.ofList (List.replicate (2 * level) ' ')

mutual

/-- The text over several lines; `level` is the nesting of the value. -/
def prettyAt (level : Nat) : Json → String
  | .null => "null"
  | .bool b => toString b
  | .int n => toString n
  | .float x => writeFloat x
  | .str s => writeString s
  | .arr [] => "[]"
  | .arr items =>
      "[" ++ ",".intercalate (prettyItems (level + 1) items) ++ newLine level ++ "]"
  | .obj [] => "\x7b\x7d"
  | .obj entries =>
      "\x7b" ++ ",".intercalate (prettyEntries (level + 1) entries) ++ newLine level ++ "\x7d"

def prettyItems (level : Nat) : List Json → List String
  | [] => []
  | v :: rest => (newLine level ++ prettyAt level v) :: prettyItems level rest

def prettyEntries (level : Nat) : List (String × Json) → List String
  | [] => []
  | (key, v) :: rest =>
      (newLine level ++ writeString key ++ ": " ++ prettyAt level v) :: prettyEntries level rest

end

/-- The text over several lines, without a line end. -/
def pretty (v : Json) : String := prettyAt 0 v

end EntryForm.Json
