import EntryForm.Pattern.Syntax

/-!
# Patterns — faults

Why a pattern is not a regular expression, and the text that shows it: the pattern with the span
at fault marked below it.  A pattern of several lines is shown between rulers, its lines numbered;
a span over several lines is told in words.
-/

namespace EntryForm.Pattern

/-- Why a pattern is not a regular expression. -/
inductive Fault.Kind where
  | classEscape | classRange | classRangeLiteral | classUnclosed
  | decimalEmpty | decimalInvalid
  | hexEmpty | hexInvalid | hexDigit | escapeEnd | escapeUnknown
  | flagDangling | flagRepeated | negationRepeated | flagEnd | flagUnknown
  | nameRepeated | nameEmpty | nameInvalid | nameEnd | groupUnclosed | groupUnopened
  | tooNested (limit : Nat)
  | countOrder | countEmpty | countUnclosed | repeatsNothing
  | boundaryUnclosed | boundaryUnknown | boundaryEnd
  | propertyForm | backreference | lookAround
  | notUtf8 | noUnicode | propertyUnknown | propertyValueUnknown
  deriving DecidableEq, Repr

/-- The wording of a fault. -/
def Fault.Kind.message : Fault.Kind → String
  | classEscape => "invalid escape sequence found in character class"
  | classRange => "invalid character class range, the start must be <= the end"
  | classRangeLiteral => "invalid range boundary, must be a literal"
  | classUnclosed => "unclosed character class"
  | decimalEmpty => "decimal literal empty"
  | decimalInvalid => "decimal literal invalid"
  | hexEmpty => "hexadecimal literal empty"
  | hexInvalid => "hexadecimal literal is not a Unicode scalar value"
  | hexDigit => "invalid hexadecimal digit"
  | escapeEnd => "incomplete escape sequence, reached end of pattern prematurely"
  | escapeUnknown => "unrecognized escape sequence"
  | flagDangling => "dangling flag negation operator"
  | flagRepeated => "duplicate flag"
  | negationRepeated => "flag negation operator repeated"
  | flagEnd => "expected flag but got end of regex"
  | flagUnknown => "unrecognized flag"
  | nameRepeated => "duplicate capture group name"
  | nameEmpty => "empty capture group name"
  | nameInvalid => "invalid capture group character"
  | nameEnd => "unclosed capture group name"
  | groupUnclosed => "unclosed group"
  | groupUnopened => "unopened group"
  | tooNested limit =>
      "exceed the maximum number of nested parentheses/brackets (" ++ toString limit ++ ")"
  | countOrder => "invalid repetition count range, the start must be <= the end"
  | countEmpty => "repetition quantifier expects a valid decimal"
  | countUnclosed => "unclosed counted repetition"
  | repeatsNothing => "repetition operator missing expression"
  | boundaryUnclosed =>
      "special word boundary assertion is either unclosed or contains an invalid character"
  | boundaryUnknown =>
      "unrecognized special word boundary assertion, valid choices are: " ++
        "start, end, start-half or end-half"
  | boundaryEnd =>
      "found either the beginning of a special word boundary or a bounded repetition on a " ++
        "\\b with an opening brace, but no closing brace"
  | propertyForm => "invalid Unicode character class"
  | backreference => "backreferences are not supported"
  | lookAround => "look-around, including look-ahead and look-behind, is not supported"
  | notUtf8 => "pattern can match invalid UTF-8"
  | noUnicode => "Unicode not allowed here"
  | propertyUnknown => "Unicode property not found"
  | propertyValueUnknown => "Unicode property value not found"

/-- A fault, where it is, and another span that it has to do with. -/
structure Fault where
  kind : Fault.Kind
  span : Span
  other : Option Span := none
  deriving DecidableEq, Repr

/-! ### Showing a fault -/

/-- `n` times the character `c`. -/
def times (n : Nat) (c : Char) : String := String.ofList (List.replicate n c)

/-- A line without a carriage return at its end. -/
def trimReturn (line : List Char) : List Char :=
  match line.getLast? with
  | some '\r' => line.dropLast
  | _ => line

/-- The lines of a text, the one begun last, and whether it has been begun. -/
def splitLines : List Char → List (List Char) × List Char
  | [] => ([], [])
  | c :: rest =>
      let (lines, last) := splitLines rest
      if c = '\n' then ([] :: lines, last)
      else
        match lines with
        | [] => ([], c :: last)
        | line :: lines => ((c :: line) :: lines, last)

/-- The lines of a text; a line end at its end begins no line. -/
def linesOf (text : String) : List String :=
  let (lines, last) := splitLines text.toList
  (lines.map trimReturn ++ if last.isEmpty then [] else [last]).map String.ofList

namespace Span

/-- The span stands in one line. -/
def isOneLine (s : Span) : Bool := s.start.line == s.stop.line

/-- The span begins earlier, or ends earlier. -/
def before (s t : Span) : Bool :=
  s.start.index < t.start.index ||
    (s.start.index == t.start.index && s.stop.index ≤ t.stop.index)

end Span

namespace Fault

/-- The spans at fault, in order. -/
def spans (f : Fault) : List Span :=
  match f.other with
  | none => [f.span]
  | some other => if f.span.before other then [f.span, other] else [other, f.span]

/-- Marks below a line, from column `column` on. -/
def underline : (column : Nat) → List Span → String
  | _, [] => ""
  | column, s :: rest =>
      let width := max 1 (s.stop.column - s.start.column)
      times (s.start.column - 1 - column) ' ' ++ times width '^' ++
        underline (max column (s.start.column - 1) + width) rest

/-- The lines of the pattern, each with the marks that belong below it; `width` digits number
them, with none they are only set off. -/
def notate (f : Fault) (width : Nat) : (number : Nat) → List String → String
  | _, [] => ""
  | number, line :: rest =>
      let label := toString number
      let lead := if width = 0 then "    " else times (width - label.length) ' ' ++ label ++ ": "
      let here := f.spans.filter fun s => s.isOneLine && s.start.line == number
      let marks := if here.isEmpty then "" else times lead.length ' ' ++ underline 0 here ++ "\n"
      lead ++ line ++ "\n" ++ marks ++ f.notate width (number + 1) rest

/-- A span over several lines, in words. -/
def describeSpan (s : Span) : String :=
  "on line " ++ toString s.start.line ++ " (column " ++ toString s.start.column ++
    ") through line " ++ toString s.stop.line ++ " (column " ++ toString (s.stop.column - 1) ++ ")"

/-- The pattern with the fault marked, and the fault. -/
def message (f : Fault) (pattern : String) : String :=
  let lines := linesOf pattern
  let ended := pattern.toList.getLast? == some '\n'
  let count := lines.length + (if ended then 1 else 0)
  let body := f.notate (if count ≤ 1 then 0 else (toString count).length) 1 lines
  let head := "regex parse error:\n"
  let foot := "error: " ++ f.kind.message
  if pattern.toList.contains '\n' then
    let ruler := times 79 '~' ++ "\n"
    let long := f.spans.filter (!·.isOneLine)
    let notes := if long.isEmpty then "" else "\n".intercalate (long.map describeSpan) ++ "\n"
    head ++ ruler ++ body ++ ruler ++ notes ++ foot
  else head ++ body ++ foot

end Fault

end EntryForm.Pattern
