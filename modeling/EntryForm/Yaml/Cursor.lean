/-!
# YAML — cursors

A cursor is a place in a text: what is left, and the mark reached.  A mark counts characters,
lines and the characters of the line, all from zero.  Besides the line feed and the carriage
return there are three Unicode line breaks; a carriage return with a line feed is one break.
-/

namespace EntryForm.Yaml

/-- A place in a text, by number of characters passed, and by line and column. -/
structure Mark where
  index : Nat := 0
  line : Nat := 0
  column : Nat := 0
  deriving DecidableEq, Repr

/-- The mark of the first character. -/
def Mark.isStart (m : Mark) : Bool := m.line == 0 && m.column == 0

/-- Line and column from one, or the index for the start of the text. -/
def Mark.describe (m : Mark) : String :=
  if m.isStart then "position " ++ toString m.index
  else "line " ++ toString (m.line + 1) ++ " column " ++ toString (m.column + 1)

/-- Which part of reading a text failed. -/
inductive Problem.Stage where
  | characters | tokens | grammar
  deriving DecidableEq, Repr

/-- Why a text is not YAML. -/
structure Problem where
  stage : Problem.Stage
  text : String
  mark : Mark := {}
  /-- The byte at which a character cannot be read. -/
  offset : Nat := 0
  /-- What was being read, and from where. -/
  context : Option (String × Mark) := none

namespace Problem

/-- The problem, where it is, and what was being read. -/
def message (p : Problem) : String :=
  let place :=
    if !p.mark.isStart then " at " ++ p.mark.describe
    else if p.offset ≠ 0 then " at position " ++ toString p.offset
    else ""
  let context :=
    match p.context with
    | none => ""
    | some (text, mark) =>
        ", " ++ text ++
          if !mark.isStart && (mark.line != p.mark.line || mark.column != p.mark.column) then
            " at " ++ mark.describe
          else ""
  p.text ++ place ++ context

end Problem

/-- A place in a text and what is left of it. -/
structure Cursor where
  rest : List Char
  mark : Mark := {}

/-! ### Characters -/

/-- A character that ends a line. -/
def isBreakChar (c : Char) : Bool :=
  c == '\n' || c == '\r' || c.toNat == 0x85 || c.toNat == 0x2028 || c.toNat == 0x2029

/-- A space or a tab. -/
def isBlankChar (c : Char) : Bool := c == ' ' || c == '\t'

/-- A letter, digit, `_` or `-`. -/
def isWordChar (c : Char) : Bool := c.isAlphanum || c == '_' || c == '-'

/-- The next character is `c`. -/
def nextIs (c : Char) : List Char → Bool
  | d :: _ => d == c
  | [] => false

/-- The next character satisfies `p`. -/
def nextSatisfies (p : Char → Bool) : List Char → Bool
  | d :: _ => p d
  | [] => false

/-- A blank comes next. -/
def atBlank (cs : List Char) : Bool := nextSatisfies isBlankChar cs

/-- A line break comes next. -/
def atBreak (cs : List Char) : Bool := nextSatisfies isBreakChar cs

/-- A line break or the end of the text comes next. -/
def atBreakOrEnd : List Char → Bool
  | [] => true
  | c :: _ => isBreakChar c

/-- A blank, a line break or the end of the text comes next. -/
def atBlankOrEnd : List Char → Bool
  | [] => true
  | c :: _ => isBlankChar c || isBreakChar c

/-- Three times `c`, then a blank, a line break or the end of the text. -/
def atIndicator (c : Char) (cs : List Char) : Bool :=
  match cs with
  | c₁ :: c₂ :: c₃ :: rest => c₁ == c && c₂ == c && c₃ == c && atBlankOrEnd rest
  | _ => false

/-- The character a line break leaves in a text. -/
def breakText (c : Char) : Char :=
  if c.toNat == 0x2028 || c.toNat == 0x2029 then c else '\n'

namespace Cursor

/-- Beyond one character of the line. -/
def skip (k : Cursor) : Cursor :=
  match k.rest with
  | [] => k
  | _ :: rest => ⟨rest, { k.mark with index := k.mark.index + 1, column := k.mark.column + 1 }⟩

/-- Beyond `n` characters of the line. -/
def skipMany : Nat → Cursor → Cursor
  | 0, k => k
  | n + 1, k => skipMany n k.skip

/-- Beyond a line break. -/
def skipBreak (k : Cursor) : Cursor :=
  match k.rest with
  | '\r' :: '\n' :: rest => ⟨rest, ⟨k.mark.index + 2, k.mark.line + 1, 0⟩⟩
  | c :: rest => if isBreakChar c then ⟨rest, ⟨k.mark.index + 1, k.mark.line + 1, 0⟩⟩ else k
  | [] => k

/-- What a line break at the cursor leaves in a text; nothing if there is none. -/
def breakChars (k : Cursor) : List Char :=
  match k.rest with
  | c :: _ => if isBreakChar c then [breakText c] else []
  | [] => []

/-- Beyond the characters of the line for which `p` holds. -/
def skipWhile (p : Char → Bool) (k : Cursor) : Cursor :=
  let passed := k.rest.takeWhile p
  ⟨k.rest.dropWhile p,
    { k.mark with index := k.mark.index + passed.length, column := k.mark.column + passed.length }⟩

/-- Beyond blanks. -/
def skipBlanks (k : Cursor) : Cursor := k.skipWhile isBlankChar

/-- Beyond the rest of the line, if it is a comment. -/
def skipComment (k : Cursor) : Cursor :=
  if nextIs '#' k.rest then k.skipWhile (!isBreakChar ·) else k

/-- The problem `text`, met while reading what the context says. -/
def fail {α : Type} (k : Cursor) (context : String) (start : Mark) (text : String) :
    Except Problem α :=
  .error { stage := .tokens, text, mark := k.mark, context := some (context, start) }

/-- The problem `text`, without a context. -/
def failBare {α : Type} (k : Cursor) (text : String) : Except Problem α :=
  .error { stage := .tokens, text, mark := k.mark }

end Cursor

/-! ### Which characters a text may have -/

/-- A character that may stand in a text. -/
def isAllowed (c : Char) : Bool :=
  let n := c.toNat
  n == 0x9 || n == 0xA || n == 0xD || (0x20 ≤ n && n ≤ 0x7E) || n == 0x85 ||
    (0xA0 ≤ n && n ≤ 0xD7FF) || (0xE000 ≤ n && n ≤ 0xFFFD) || 0x10000 ≤ n

/-- The byte offset of the first character that may not stand in a text. -/
def forbiddenAt? (offset : Nat) : List Char → Option Nat
  | [] => none
  | c :: rest => if isAllowed c then forbiddenAt? (offset + c.utf8Size) rest else some offset

/-- The start of a text, whose characters have to be allowed ones.  A byte order mark at the start
is passed over. -/
def Cursor.start (text : String) : Except Problem Cursor :=
  let (rest, offset) : List Char × Nat :=
    match text.toList with
    | '\uFEFF' :: rest => (rest, 3)
    | cs => (cs, 0)
  match forbiddenAt? offset rest with
  | some at_ =>
      .error
        { stage := .characters, text := "control characters are not allowed", offset := at_ }
  | none => .ok { rest }

end EntryForm.Yaml
