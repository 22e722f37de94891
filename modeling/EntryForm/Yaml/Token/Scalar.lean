import EntryForm.Yaml.Token

/-!
# YAML — scalars as tokens

Plain, quoted and block scalars.  In plain and quoted scalars a line break between two lines is
folded into a space, and further breaks are kept; a folded block scalar does so between lines that
do not begin with a blank.  What is left at the end of a block scalar depends on its chomping
indicator.
-/

namespace EntryForm.Yaml

/-- The text of a scalar while it is read, last character first, with the blanks and breaks that
follow it. -/
structure Gather where
  text : List Char := []
  /-- Blanks after the text, last first, as long as there is no break. -/
  blanks : List Char := []
  /-- The first break, if there is one and it leaves a character. -/
  first : List Char := []
  /-- The breaks after the first, last first. -/
  others : List Char := []
  /-- A break has been passed. -/
  broken : Bool := false

/-- What two lines are joined by, last character first. -/
def foldedBreaks (first others : List Char) : List Char :=
  if first == ['\n'] then (if others.isEmpty then [' '] else others) else others ++ first

/-- The text with the blanks or breaks that follow it. -/
def Gather.join (g : Gather) : Gather :=
  if g.broken then { text := foldedBreaks g.first g.others ++ g.text }
  else { text := g.blanks ++ g.text }

/-- One more character. -/
def Gather.push (g : Gather) (c : Char) : Gather := { g with text := c :: g.text }

/-- Passes blanks and breaks; `guard` refuses a blank after a break. -/
def Gather.passBlanks (guard : Cursor → Except Problem Unit) :
    Nat → Gather → Cursor → Except Problem (Gather × Cursor)
  | 0, g, k => .ok (g, k)
  | fuel + 1, g, k =>
      match k.rest with
      | [] => .ok (g, k)
      | c :: _ =>
          if isBlankChar c then do
            if g.broken then
              guard k
              passBlanks guard fuel g k.skip
            else passBlanks guard fuel { g with blanks := c :: g.blanks } k.skip
          else if isBreakChar c then
            if g.broken then
              passBlanks guard fuel { g with others := k.breakChars ++ g.others } k.skipBreak
            else
              passBlanks guard fuel { g with blanks := [], first := k.breakChars, broken := true }
                k.skipBreak
          else .ok (g, k)

/-- The text that was gathered. -/
def Gather.result (g : Gather) : String := String.ofList g.text.reverse

/-! ### Plain scalars -/

/-- A plain scalar may not go on from here: a colon before a blank, and in a flow collection a
bracket or a comma. -/
def endsPlain (inFlow : Bool) : List Char → Bool
  | [] => false
  | ':' :: rest => atBlankOrEnd rest
  | c :: _ => inFlow && (c == ',' || c == '[' || c == ']' || c == '{' || c == '}')

/-- A colon directly before a bracket, comma or question mark. -/
def isColonTrap : List Char → Bool
  | ':' :: c :: _ => c == ',' || c == '?' || c == '[' || c == ']' || c == '{' || c == '}'
  | _ => false

/-- The characters of one run without blanks.  `stop` is the mark behind the last character. -/
def plainRun (inFlow : Bool) (start : Mark) :
    Nat → Gather → Mark → Cursor → Except Problem (Gather × Mark × Cursor)
  | 0, g, stop, k => .ok (g, stop, k)
  | fuel + 1, g, stop, k =>
      match k.rest with
      | [] => .ok (g, stop, k)
      | c :: _ =>
          if isBlankChar c || isBreakChar c then .ok (g, stop, k)
          else if inFlow && isColonTrap k.rest then
            k.fail "while scanning a plain scalar" start "found unexpected ':'"
          else if endsPlain inFlow k.rest then .ok (g, stop, k)
          else
            let g := (if g.broken || !g.blanks.isEmpty then g.join else g).push c
            plainRun inFlow start fuel g k.skip.mark k.skip

/-- The runs of a plain scalar.  Ends before a document indicator, a comment, or a line that is
indented less than `indent`. -/
def plainRuns (inFlow : Bool) (indent : Int) (start : Mark) :
    Nat → Gather → Mark → Cursor → Except Problem (Gather × Mark × Cursor)
  | 0, g, stop, k => .ok (g, stop, k)
  | fuel + 1, g, stop, k => do
      if k.mark.column == 0 && (atIndicator '-' k.rest || atIndicator '.' k.rest) then
        return (g, stop, k)
      if nextIs '#' k.rest then return (g, stop, k)
      let (g, stop, k) ← plainRun inFlow start (k.rest.length + 1) g stop k
      if !(atBlank k.rest || atBreak k.rest) then return (g, stop, k)
      let guard (k : Cursor) : Except Problem Unit :=
        if (k.mark.column : Int) < indent && nextIs '\t' k.rest then
          k.fail "while scanning a plain scalar" start
            "found a tab character that violates indentation"
        else .ok ()
      let (g, k) ← g.passBlanks guard (k.rest.length + 1) k
      if !inFlow && (k.mark.column : Int) < indent then return (g, stop, k)
      plainRuns inFlow indent start fuel g stop k

/-- A plain scalar, and whether it was followed by a line break. -/
def plainScalar (inFlow : Bool) (indent : Int) (k : Cursor) :
    Except Problem (Token × Bool × Cursor) := do
  let (g, stop, after) ← plainRuns inFlow (indent + 1) k.mark (k.rest.length + 1) {} k.mark k
  .ok (⟨.scalar g.result .plain, k.mark, stop⟩, g.broken, after)

/-! ### Quoted scalars -/

/-- The value of a hexadecimal digit. -/
def hexValue? (c : Char) : Option Nat :=
  if c.isDigit then some (c.toNat - 48)
  else if 'a' ≤ c ∧ c ≤ 'f' then some (c.toNat - 87)
  else if 'A' ≤ c ∧ c ≤ 'F' then some (c.toNat - 55)
  else none

/-- The value of the `n` hexadecimal digits that come next. -/
def hexNumber? : Nat → Nat → List Char → Option Nat
  | 0, value, _ => some value
  | _ + 1, _, [] => none
  | n + 1, value, c :: rest => (hexValue? c).bind fun d => hexNumber? n (value * 16 + d) rest

/-- The character that stands for itself after a backslash, or is named by a letter. -/
def escapedChar? : Char → Option Char
  | '0' => some '\x00'
  | 'a' => some '\x07'
  | 'b' => some '\x08'
  | 't' | '\t' => some '\t'
  | 'n' => some '\n'
  | 'v' => some '\x0b'
  | 'f' => some '\x0c'
  | 'r' => some '\r'
  | 'e' => some '\x1b'
  | ' ' => some ' '
  | '"' => some '"'
  | '/' => some '/'
  | '\\' => some '\\'
  | 'N' => some '\u0085'
  | '_' => some '\u00a0'
  | 'L' => some '\u2028'
  | 'P' => some '\u2029'
  | _ => none

/-- The number of hexadecimal digits after a letter that asks for some. -/
def codeLength? : Char → Option Nat
  | 'x' => some 2
  | 'u' => some 4
  | 'U' => some 8
  | _ => none

/-- Reads an escape, at its backslash. -/
def escape (start : Mark) (k : Cursor) : Except Problem (Char × Cursor) :=
  match k.rest with
  | _ :: e :: digits =>
      match escapedChar? e, codeLength? e with
      | some c, _ => .ok (c, k.skip.skip)
      | none, some n =>
          match hexNumber? n 0 digits with
          | none =>
              k.skip.skip.fail "while parsing a quoted scalar" start
                "did not find expected hexdecimal number"
          | some value =>
              if (0xD800 ≤ value ∧ value ≤ 0xDFFF) ∨ 0x10FFFF < value then
                k.skip.skip.fail "while parsing a quoted scalar" start
                  "found invalid Unicode character escape code"
              else .ok (Char.ofNat value, k.skip.skip.skipMany n)
      | none, none =>
          k.fail "while parsing a quoted scalar" start "found unknown escape character"
  | _ => k.fail "while parsing a quoted scalar" start "found unknown escape character"

/-- The characters of one run without blanks, in quotes.  An escaped line break ends it too. -/
def quotedRun (single : Bool) (start : Mark) :
    Nat → Gather → Cursor → Except Problem (Gather × Cursor)
  | 0, g, k => .ok (g, k)
  | fuel + 1, g, k =>
      match k.rest with
      | [] => .ok (g, k)
      | c :: rest =>
          if isBlankChar c || isBreakChar c then .ok (g, k)
          else if single && c == '\'' then
            if nextIs '\'' rest then quotedRun single start fuel (g.push '\'') k.skip.skip
            else .ok (g, k)
          else if !single && c == '"' then .ok (g, k)
          else if !single && c == '\\' then
            if atBreak rest then .ok ({ g with broken := true }, k.skip.skipBreak)
            else do
              let (d, k) ← escape start k
              quotedRun single start fuel (g.push d) k
          else quotedRun single start fuel (g.push c) k.skip

/-- The runs of a quoted scalar, up to its closing quote. -/
def quotedRuns (single : Bool) (start : Mark) :
    Nat → Gather → Cursor → Except Problem (Gather × Cursor)
  | 0, g, k => .ok (g, k)
  | fuel + 1, g, k => do
      if k.mark.column == 0 && (atIndicator '-' k.rest || atIndicator '.' k.rest) then
        k.fail "while scanning a quoted scalar" start "found unexpected document indicator"
      else if k.rest.isEmpty then
        k.fail "while scanning a quoted scalar" start "found unexpected end of stream"
      else
        let (g, k) ← quotedRun single start (k.rest.length + 1) g k
        if nextIs (if single then '\'' else '"') k.rest then return (g, k)
        let (g, k) ← g.passBlanks (fun _ => .ok ()) (k.rest.length + 1) k
        quotedRuns single start fuel g.join k

/-- A quoted scalar, at its opening quote. -/
def quotedScalar (single : Bool) (k : Cursor) : Except Problem (Token × Cursor) := do
  let (g, after) ← quotedRuns single k.mark (k.rest.length + 1) {} k.skip
  let after := after.skip
  .ok (⟨.scalar g.result (if single then .single else .double), k.mark, after.mark⟩, after)

/-! ### Block scalars -/

/-- What is kept of the breaks at the end of a block scalar. -/
inductive Chomping where
  /-- The break of the last line only. -/
  | clip
  /-- Nothing. -/
  | strip
  /-- Every break. -/
  | keep
  deriving DecidableEq

/-- The chomping indicator that comes next. -/
def chomping? : List Char → Option Chomping
  | '+' :: _ => some .keep
  | '-' :: _ => some .strip
  | _ => none

/-- The indentation indicator that comes next. -/
def increment? : List Char → Option Nat
  | c :: _ => if c.isDigit then some (c.toNat - 48) else none
  | [] => none

/-- An indentation indicator, not zero. -/
def readIncrement (start : Mark) (k : Cursor) : Except Problem (Nat × Cursor) :=
  match increment? k.rest with
  | none => .ok (0, k)
  | some 0 =>
      k.fail "while scanning a block scalar" start "found an indentation indicator equal to 0"
  | some n => .ok (n, k.skip)

/-- A chomping and an indentation indicator, in either order. -/
def blockIndicators (start : Mark) (k : Cursor) : Except Problem (Chomping × Nat × Cursor) :=
  match chomping? k.rest with
  | some c => do
      let (n, k) ← readIncrement start k.skip
      .ok (c, n, k)
  | none => do
      let (n, k) ← readIncrement start k
      if n = 0 then .ok (.clip, 0, k)
      else
        match chomping? k.rest with
        | some c => .ok (c, n, k.skip)
        | none => .ok (.clip, n, k)

/-- Passes indentation and empty lines: the breaks, last first, the greatest column reached, and
the mark behind the last break.  An indentation of zero is not known yet. -/
def blockBreaks (indent : Nat) (start : Mark) :
    Nat → List Char → Nat → Mark → Cursor → Except Problem (List Char × Nat × Mark × Cursor)
  | 0, breaks, most, stop, k => .ok (breaks, most, stop, k)
  | fuel + 1, breaks, most, stop, k =>
      let spaces := (k.rest.takeWhile (· == ' ')).length
      let passed := if indent = 0 then spaces else min spaces (indent - k.mark.column)
      let k := k.skipMany passed
      let most := max most k.mark.column
      if (indent = 0 || k.mark.column < indent) && nextIs '\t' k.rest then
        k.fail "while scanning a block scalar" start
          "found a tab character where an indentation space is expected"
      else if !atBreak k.rest then .ok (breaks, most, stop, k)
      else
        let after := k.skipBreak
        blockBreaks indent start fuel (k.breakChars ++ breaks) most after.mark after

/-- The lines of a block scalar: its text, last character first, the last break, the empty lines
after it, and the mark behind them. -/
def blockLines (literal : Bool) (indent : Nat) (start : Mark) :
    Nat → List Char → List Char → List Char → Bool → Mark → Cursor →
      Except Problem (List Char × List Char × List Char × Mark × Cursor)
  | 0, text, last, breaks, _, stop, k => .ok (text, last, breaks, stop, k)
  | fuel + 1, text, last, breaks, led, stop, k => do
      if k.mark.column ≠ indent || k.rest.isEmpty then return (text, last, breaks, stop, k)
      let blank := atBlank k.rest
      let joined :=
        if !literal && last == ['\n'] && !led && !blank then
          if breaks.isEmpty then [' '] else breaks
        else breaks ++ last
      let line := k.rest.takeWhile (!isBreakChar ·)
      let k := k.skipWhile (!isBreakChar ·)
      let text := line.reverse ++ (joined ++ text)
      let last := k.breakChars
      let k := k.skipBreak
      let (breaks, _, stop, k) ← blockBreaks indent start (k.rest.length + 1) [] 0 k.mark k
      blockLines literal indent start fuel text last breaks blank stop k

/-- A block scalar, at its indicator. -/
def blockScalar (literal : Bool) (parent : Int) (k : Cursor) :
    Except Problem (Token × Cursor) := do
  let start := k.mark
  let (chomping, increment, k) ← blockIndicators start k.skip
  let k := k.skipBlanks.skipComment
  if !atBreakOrEnd k.rest then
    k.fail "while scanning a block scalar" start "did not find expected comment or line break"
  else
    let k := k.skipBreak
    let given : Nat :=
      if increment = 0 then 0 else if parent ≥ 0 then parent.toNat + increment else increment
    let (breaks, most, stop, k) ← blockBreaks given start (k.rest.length + 1) [] 0 k.mark k
    let indent := if given = 0 then max (max most (parent + 1).toNat) 1 else given
    let (text, last, breaks, stop, k) ←
      blockLines literal indent start (k.rest.length + 1) [] [] breaks false stop k
    let tail := match chomping with
      | .strip => []
      | .clip => last
      | .keep => breaks ++ last
    .ok (⟨.scalar (String.ofList (tail ++ text).reverse) (if literal then .literal else .folded),
      start, stop⟩, k)

end EntryForm.Yaml
