import EntryForm.Yaml.Scalar
import EntryForm.Yaml.Printer.Sheet

/-!
# YAML — writing a scalar

A text is written plain if it then reads as a text and no indicator in it is taken for one; as a
literal block if it has a line feed; else in single quotes, or in double quotes where only an
escape can show a character.  What a plain scalar would mean otherwise (a number, null, …) is
quoted.
-/

namespace EntryForm.Yaml

/-- A character that may stand unescaped. -/
def isPrintable (c : Char) : Bool :=
  let n := c.toNat
  n == 0xA || (0x20 ≤ n && n ≤ 0x7E) || (0xA0 ≤ n && n != 0xFEFF && n != 0xFFFE && n != 0xFFFF)

/-- Two neighbours satisfy `p` and `q`. -/
def hasPair (p q : Char → Bool) : List Char → Bool
  | a :: b :: rest => (p a && q b) || hasPair p q (b :: rest)
  | _ => false

/-- The first character means something of its own. -/
def isLeadingIndicator (c : Char) : Bool := "#,[]\x7b\x7d&*!|>'\"%@`".toList.contains c

/-- A colon before a blank or the end, or a hash after a blank. -/
def hasInnerIndicator (blankBefore : Bool) : List Char → Bool
  | [] => false
  | c :: rest =>
      (c == ':' && atBlankOrEnd rest) || (c == '#' && blankBefore) ||
        hasInnerIndicator (isBlankChar c || isBreakChar c) rest

/-- Characters that a block would take for indicators. -/
def hasIndicator (cs : List Char) : Bool :=
  match cs with
  | '-' :: '-' :: '-' :: _ | '.' :: '.' :: '.' :: _ => true
  | c :: rest =>
      isLeadingIndicator c || ((c == '?' || c == '-') && atBlankOrEnd rest) ||
        hasInnerIndicator false cs
  | [] => false

/-- A blank as a scalar counts it. -/
def isSpaceChar (c : Char) : Bool := c == ' '

/-- The text may stand plain in a block. -/
def plainAllowed (cs : List Char) : Bool :=
  cs.all isPrintable && !cs.any isBreakChar && !hasIndicator cs &&
    cs.head? != some ' ' && cs.getLast? != some ' '

/-- The text may stand in single quotes. -/
def singleAllowed (cs : List Char) : Bool :=
  cs.all isPrintable && !hasPair isBreakChar isSpaceChar cs && !hasPair isSpaceChar isBreakChar cs

/-- The text may stand as a literal block. -/
def literalAllowed (cs : List Char) : Bool :=
  cs.all isPrintable && !hasPair isSpaceChar isBreakChar cs && cs.getLast? != some ' '

/-- Plain, the text would mean something else. -/
def isAmbiguous (s : String) : Bool :=
  match Meaning.ofPlain s with
  | .text _ => Meaning.isSpareZero s
  | _ => true

/-- How a text is written. -/
def Style.ofText (s : String) : Style :=
  let cs := s.toList
  let quoted := if singleAllowed cs then .single else .double
  if cs.contains '\n' then if literalAllowed cs then .literal else .double
  else if isAmbiguous s then quoted
  else if plainAllowed cs then .plain
  else quoted

/-! ### The styles -/

/-- A character as a number of digits in base sixteen. -/
def hexDigits (width n : Nat) : List Char :=
  let digits := (Nat.toDigits 16 n).map Char.toUpper
  List.replicate (width - digits.length) '0' ++ digits

/-- A character between double quotes. -/
def doubleQuotedChar (c : Char) : List Char :=
  let n := c.toNat
  if c == '"' || c == '\\' then ['\\', c]
  else if isPrintable c && !isBreakChar c then [c]
  else if n == 0 then ['\\', '0']
  else if n == 7 then ['\\', 'a']
  else if n == 8 then ['\\', 'b']
  else if n == 9 then ['\\', 't']
  else if n == 0xA then ['\\', 'n']
  else if n == 0xB then ['\\', 'v']
  else if n == 0xC then ['\\', 'f']
  else if n == 0xD then ['\\', 'r']
  else if n == 0x1B then ['\\', 'e']
  else if n == 0x85 then ['\\', 'N']
  else if n == 0x2028 then ['\\', 'L']
  else if n == 0x2029 then ['\\', 'P']
  else if n ≤ 0xFF then '\\' :: 'x' :: hexDigits 2 n
  else if n ≤ 0xFFFF then '\\' :: 'u' :: hexDigits 4 n
  else '\\' :: 'U' :: hexDigits 8 n

namespace Sheet

/-- Writes characters, each as `written` says, of which the breaks end lines; a line begins at the
indentation.  `broken` holds at the beginning of a line, also in the result. -/
def putLines (indent : Nat) (written : Char → List Char) :
    (broken : Bool) → List Char → Sheet → Sheet × Bool
  | broken, [], s => (s, broken)
  | broken, c :: rest, s =>
      if isBreakChar c then putLines indent written true rest { s.putBreak c with fresh := true }
      else
        let s := if broken then s.startLine indent else s
        putLines indent written false rest { s.puts (written c) with fresh := false }

/-- Writes a text in single quotes. -/
def putSingle (s : Sheet) (indent : Nat) (cs : List Char) : Sheet :=
  let (s, broken) := putLines indent (fun c => if c == '\'' then [c, c] else [c]) false cs
    (s.mark ['\''])
  (if broken then s.startLine indent else s).close ['\'']

/-- What follows the sign of a literal block: the indentation, if the text begins with a blank or
a break, and how the breaks at its end count. -/
def literalHints (cs : List Char) : List Char :=
  let indentation := if nextSatisfies (fun c => c == ' ' || isBreakChar c) cs then ['2'] else []
  let chomping :=
    match cs.reverse with
    | [] => ['-']
    | c :: rest =>
        if !isBreakChar c then ['-']
        else if rest.isEmpty || nextSatisfies isBreakChar rest then ['+']
        else []
  indentation ++ chomping

/-- Writes a text as a literal block. -/
def putLiteral (s : Sheet) (indent : Nat) (cs : List Char) : Sheet :=
  let s := (s.mark ['|']).close (literalHints cs)
  (putLines indent (fun c => [c]) true cs
    { s.putBreak '\n' with open_ := true, fresh := true }).1

/-- Writes a text in a style; `indent` is the indentation of lines within it. -/
def putText (s : Sheet) (indent : Nat) (text : String) : Sheet :=
  let cs := text.toList
  match Style.ofText text with
  | .plain | .folded => s.mark cs
  | .single => s.putSingle indent cs
  | .literal => s.putLiteral indent cs
  | .double => (s.mark ['"']).close (cs.flatMap doubleQuotedChar ++ ['"'])

end Sheet

end EntryForm.Yaml
