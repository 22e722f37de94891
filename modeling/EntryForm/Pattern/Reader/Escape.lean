import EntryForm.Pattern.Cursor

/-!
# Patterns — reading an escape

What a backslash begins: a character, an assertion, or a class with a letter of its own or named
by a Unicode property.
-/

namespace EntryForm.Pattern

open Cursor

/-- A character that means something outside a class. -/
def isMeta (c : Char) : Bool := "\\.+*?()|[]\x7b\x7d^$#&-~".toList.contains c

/-- A character that a backslash may precede although it means nothing: any of ASCII but letters,
digits and angle brackets. -/
def isEscapable (c : Char) : Bool :=
  isMeta c || (c.toNat < 128 && !c.isAlphanum && c != '<' && c != '>')

/-- The value of a hexadecimal digit. -/
def hexValue? (c : Char) : Option Nat :=
  if c.isDigit then some (c.toNat - 48)
  else if 'a' ≤ c ∧ c ≤ 'f' then some (c.toNat - 87)
  else if 'A' ≤ c ∧ c ≤ 'F' then some (c.toNat - 55)
  else none

/-- The character with a number; there is none for surrogates and beyond the last code point. -/
def charOf? (n : Nat) : Option Char := if n.isValidChar then some (Char.ofNat n) else none

/-- Reads a number of hexadecimal digits.  But for the first, the cursor stands at the digit
before. -/
def readHexDigits : (left : Nat) → (first : Bool) → (value : Nat) → Cursor →
    Except Fault (Nat × Cursor)
  | 0, _, value, k => .ok (value, k.advance)
  | left + 1, first, value, k =>
      let k := if first then k else k.advance
      match k.rest with
      | [] => fail .escapeEnd k.here
      | c :: _ =>
          match hexValue? c with
          | none => fail .hexDigit k.charSpan
          | some d => readHexDigits left false (value * 16 + d) k

/-- Reads hexadecimal digits up to a closing brace or the end; the cursor stands before the
first. -/
def readHexBraced : Nat → (value : Option Nat) → Cursor → Except Fault (Option Nat × Cursor)
  | 0, value, k => .ok (value, k)
  | fuel + 1, value, k =>
      let k := k.advance
      match k.rest with
      | [] => .ok (value, k)
      | c :: _ =>
          if c = '\x7d' then .ok (value, k)
          else
            match hexValue? c with
            | none => fail .hexDigit k.charSpan
            | some d => readHexBraced fuel (some (value.getD 0 * 16 + d)) k

/-- Reads a character by its number, `digits` digits long or in braces; the escape began at
`start`, and the cursor stands at its letter. -/
def readHex (start : Place) (digits : Nat) (k : Cursor) : Except Fault (Node × Cursor) := do
  let k := k.advance
  if k.atEnd then fail .escapeEnd k.here
  else if k.sees '\x7b' then
    let brace := k.place
    let (value, k') ← readHexBraced k.rest.length none k
    if k'.atEnd then fail .escapeEnd (k'.since brace)
    else
      let digits : Span := ⟨k.next.place, k'.place⟩
      let k := k'.advance
      match value with
      | none => fail .hexEmpty (k.since brace)
      | some n =>
          match charOf? n with
          | none => fail .hexInvalid digits
          | some c => .ok (.literal { span := k.since start, char := c }, k)
  else
    let (n, k') ← readHexDigits digits true 0 k
    match charOf? n with
    | none => fail .hexInvalid (k'.since k.place)
    | some c => .ok (.literal { span := k'.since start, char := c, byte := digits == 2 }, k')

/-- The characters up to a closing brace or the end; the cursor stands before the first. -/
def readBraced : Nat → List Char → Cursor → List Char × Cursor
  | 0, read, k => (read.reverse, k)
  | fuel + 1, read, k =>
      let k := k.advance
      match k.rest with
      | [] => (read.reverse, k)
      | c :: _ => if c = '\x7d' then (read.reverse, k) else readBraced fuel (c :: read) k

/-- The parts of a text before and after the first place where another text stands. -/
def splitAt? (mark : List Char) : List Char → Option (List Char × List Char)
  | [] => none
  | c :: rest =>
      if mark.isPrefixOf (c :: rest) then some ([], (c :: rest).drop mark.length)
      else (splitAt? mark rest).map fun (a, b) => (c :: a, b)

/-- The query in the braces of a property: a name, or a name and a value. -/
def Query.ofChars (cs : List Char) : Query :=
  match (splitAt? ['!', '='] cs).or ((splitAt? [':'] cs).or (splitAt? ['='] cs)) with
  | some (name, value) => .valued (String.ofList name) (String.ofList value)
  | none => .binary (String.ofList cs)

/-- Reads a Unicode property; the escape began at `start`, and the cursor stands at its letter. -/
def readProperty (start : Place) (negated : Bool) (k : Cursor) : Except Fault (Node × Cursor) := do
  let k := k.advance
  match k.rest with
  | [] => fail .escapeEnd k.here
  | c :: _ =>
      if c = '\x7b' then
        let (name, k) := readBraced k.rest.length [] k
        if k.atEnd then fail .escapeEnd k.here
        else
          let k := k.next
          .ok (.property (k.since start) (.ofChars name) negated, k)
      else if c = '\\' then fail .propertyForm k.charSpan
      else
        let k := k.advance
        .ok (.property (k.since start) (.binary (String.singleton c)) negated, k)

/-- A character in the name of a word boundary. -/
def isBoundaryChar (c : Char) : Bool := c.isAlpha || c == '-'

/-- The characters of a boundary's name from the cursor on. -/
def readBoundaryName : Nat → List Char → Cursor → List Char × Cursor
  | 0, read, k => (read.reverse, k)
  | fuel + 1, read, k =>
      match k.rest with
      | c :: _ =>
          if isBoundaryChar c then readBoundaryName fuel (c :: read) k.advance
          else (read.reverse, k)
      | [] => (read.reverse, k)

/-- The word boundary with a name. -/
def Edge.ofName? (name : String) : Option Edge :=
  [("start", start), ("end", stop), ("start-half", startHalf), ("end-half", stopHalf)].lookup name

/-- Reads the name of a word boundary in braces, if what is in them may be one and not a count.
The escape began at `start`, and the cursor stands at the brace. -/
def readBoundary? (start : Place) (k : Cursor) : Except Fault (Option (Edge × Cursor)) := do
  let inner := k.advance
  match inner.rest with
  | [] => fail .boundaryEnd (inner.since start)
  | c :: _ =>
      if !isBoundaryChar c then .ok none
      else
        let (name, stop) := readBoundaryName inner.rest.length [] inner
        if !stop.sees '\x7d' then fail .boundaryUnclosed (stop.since k.place)
        else
          match Edge.ofName? (String.ofList name) with
          | some edge => .ok (some (edge, stop.next))
          | none => fail .boundaryUnknown (stop.since inner.place)

/-- Reads an escape; the cursor stands at the backslash. -/
def readEscape (k : Cursor) : Except Fault (Node × Cursor) := do
  let start := k.place
  let k := k.next
  match k.rest with
  | [] => fail .escapeEnd (k.since start)
  | c :: _ =>
      let done := k.next
      let span := done.since start
      let char (c : Char) : Except Fault (Node × Cursor) := .ok (.literal { span, char := c }, done)
      if c.isDigit then fail .backreference span
      else if c = 'x' then readHex start 2 k
      else if c = 'u' then readHex start 4 k
      else if c = 'U' then readHex start 8 k
      else if c = 'p' then readProperty start false k
      else if c = 'P' then readProperty start true k
      else if c = 'd' then .ok (.shorthand span .digit false, done)
      else if c = 's' then .ok (.shorthand span .space false, done)
      else if c = 'w' then .ok (.shorthand span .word false, done)
      else if c = 'D' then .ok (.shorthand span .digit true, done)
      else if c = 'S' then .ok (.shorthand span .space true, done)
      else if c = 'W' then .ok (.shorthand span .word true, done)
      else if isEscapable c then char c
      else if c = 'a' then char '\x07'
      else if c = 'f' then char '\x0c'
      else if c = 't' then char '\t'
      else if c = 'n' then char '\n'
      else if c = 'r' then char '\r'
      else if c = 'v' then char '\x0b'
      else if c = 'A' then .ok (.assertion span (.text false), done)
      else if c = 'z' then .ok (.assertion span (.text true), done)
      else if c = 'B' then .ok (.assertion span (.word .neither), done)
      else if c = '<' then .ok (.assertion span (.word .start), done)
      else if c = '>' then .ok (.assertion span (.word .stop), done)
      else if c = 'b' then
        if done.sees '\x7b' then
          match ← readBoundary? start done with
          | some (edge, k) => .ok (.assertion (k.since start) (.word edge), k)
          | none => .ok (.assertion span (.word .either), done)
        else .ok (.assertion span (.word .either), done)
      else fail .escapeUnknown span

end EntryForm.Pattern
