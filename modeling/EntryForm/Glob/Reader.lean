import EntryForm.Glob
import EntryForm.Text.Quoted
import EntryForm.Text.Record

/-!
# Globs — reading

A glob is read from left to right.  `?` and `*` stand for bytes, `**` between slashes for folders,
brackets hold a class and braces a choice; a backslash takes away the meaning of the character
after it.  Inside a class a backslash is a character like any other.
-/

namespace EntryForm.Glob

/-- What can be wrong with a glob. -/
inductive Error.Cause where
  | openClass
  /-- The end of a range comes before its start. -/
  | reversedRange (first last : Char)
  | unopenedChoice
  | openChoice
  /-- Nothing follows a backslash. -/
  | danglingEscape
  deriving DecidableEq, Repr

/-- A cause in full. -/
def Error.Cause.detail : Error.Cause → String
  | openClass => "UnclosedClass"
  | reversedRange first last =>
      Text.applied "InvalidRange" [Text.quotedChar first, Text.quotedChar last]
  | unopenedChoice => "UnopenedAlternates"
  | openChoice => "UnclosedAlternates"
  | danglingEscape => "DanglingEscape"

/-- Why a text is no glob. -/
structure Error where
  source : String
  cause : Error.Cause

/-- An error in full. -/
def Error.detail (e : Error) : String :=
  Text.record "Error"
    [("glob", Text.applied "Some" [Text.quoted e.source]), ("kind", e.cause.detail)]

/-! ### Classes -/

/-- The ranges with the last one ended at `c`; the last range comes first. -/
def endRange (c : Char) : List (Char × Char) → Except Error.Cause (List (Char × Char))
  | [] => .ok [(c, c)]
  | (first, _) :: others =>
      if c < first then .error (.reversedRange first c) else .ok ((first, c) :: others)

/-- Reads the rest of a class, after ranges of which the last one comes first.  A hyphen after a
character opens a range, unless the class ends there. -/
def readRanges (inRange : Bool) (ranges : List (Char × Char)) :
    List Char → Except Error.Cause (List (Char × Char) × List Char)
  | [] => .error .openClass
  | c :: rest =>
      if c = ']' && !ranges.isEmpty then
        .ok ((if inRange then ('-', '-') :: ranges else ranges).reverse, rest)
      else if inRange then do readRanges false (← endRange c ranges) rest
      else if c = '-' && !ranges.isEmpty then readRanges true ranges rest
      else readRanges false ((c, c) :: ranges) rest

/-- Reads a class, after its bracket. -/
def readClass (text : List Char) : Except Error.Cause (Token × List Char) := do
  let (negated, body) :=
    match text with
    | '!' :: rest | '^' :: rest => (true, rest)
    | _ => (false, text)
  let (ranges, rest) ← readRanges false [] body
  .ok (.oneOf negated ranges, rest)

/-! ### The whole glob -/

/-- A choice that is open: the tokens before it and its finished sequences, the last one first. -/
structure Choice where
  before : List Token
  done : List (List Token) := []

/-- How far a glob is read: the open choices from the inside out, the tokens of the sequence being
read, the last one first, and the character before the next. -/
structure Reading where
  choices : List Choice := []
  tokens : List Token := []
  last : Option Char := none

namespace Reading

/-- One more token, read up to the character `c`. -/
def push (r : Reading) (t : Token) (c : Char) : Reading :=
  { r with tokens := t :: r.tokens, last := some c }

/-- Two stars that do not stand for folders. -/
def pushStars (r : Reading) : Reading := (r.push .star '*').push .star '*'

/-- Folders in place of the slash before them; folders that follow folders add nothing. -/
def pushFolders (r : Reading) (t : Token) (last : Char) : Reading :=
  let tokens :=
    match r.tokens with
    | .leadingFolders :: _ | .trailingFolders :: _ => r.tokens
    | _ :: before => t :: before
    | [] => [t]
  { r with tokens := tokens, last := some last }

/-- A comma or a brace that begins a sequence may come before stars for folders. -/
def opensSequence (r : Reading) : Bool :=
  !r.choices.isEmpty && (r.last == some ',' || r.last == some '\x7b')

/-- Takes up two stars, and the slash after them if they stand for folders. -/
def stars (r : Reading) (rest : List Char) : Reading × List Char :=
  if r.tokens.isEmpty then
    match rest with
    | [] => (r.push .leadingFolders '*', [])
    | '/' :: others => (r.push .leadingFolders '/', others)
    | _ => (r.pushStars, rest)
  else if r.last != some '/' && !r.opensSequence then (r.pushStars, rest)
  else
    match rest with
    | [] => (r.pushFolders .trailingFolders '*', [])
    | '/' :: others => (r.pushFolders .innerFolders '/', others)
    | c :: _ =>
        if !r.choices.isEmpty && (c = ',' || c = '\x7d') then
          (r.pushFolders .trailingFolders '*', rest)
        else (r.pushStars, rest)

/-- Opens a choice. -/
def open_ (r : Reading) : Reading :=
  { choices := ⟨r.tokens, []⟩ :: r.choices, last := some '\x7b' }

/-- Takes up a comma, which ends a sequence inside a choice. -/
def comma (r : Reading) : Reading :=
  match r.choices with
  | [] => r.push (.literal ',') ','
  | choice :: outer =>
      { choices := { choice with done := r.tokens.reverse :: choice.done } :: outer
        last := some ',' }

/-- Closes the innermost choice. -/
def close (r : Reading) : Except Error.Cause Reading :=
  match r.choices with
  | [] => .error .unopenedChoice
  | choice :: outer =>
      let branches := (r.tokens.reverse :: choice.done).reverse
      .ok { choices := outer, tokens := .either branches :: choice.before, last := some '\x7d' }

/-- Reads on from a reading; the first argument bounds the number of tokens. -/
def readOn : Nat → Reading → List Char → Except Error.Cause Reading
  | 0, r, _ => .ok r
  | _, r, [] => .ok r
  | fuel + 1, r, c :: rest =>
      match c with
      | '?' => readOn fuel (r.push .any c) rest
      | '*' =>
          match rest with
          | '*' :: others =>
              let (r', rest') := r.stars others
              readOn fuel r' rest'
          | _ => readOn fuel (r.push .star c) rest
      | '[' => do
          let (t, rest') ← readClass rest
          readOn fuel (r.push t ']') rest'
      | '\x7b' => readOn fuel r.open_ rest
      | '\x7d' => do readOn fuel (← r.close) rest
      | ',' => readOn fuel r.comma rest
      | '\\' =>
          match rest with
          | [] => .error .danglingEscape
          | e :: others => readOn fuel (r.push (.literal e) e) others
      | _ => readOn fuel (r.push (.literal c) c) rest

end Reading

/-- The tokens of a glob. -/
def readTokens (text : List Char) : Except Error.Cause (List Token) := do
  let r ← Reading.readOn text.length {} text
  if r.choices.isEmpty then .ok r.tokens.reverse else .error .openChoice

/-- Reads a glob. -/
def read (source : String) : Except Error Glob :=
  match readTokens source.toList with
  | .ok tokens => .ok ⟨tokens⟩
  | .error cause => .error ⟨source, cause⟩

end EntryForm.Glob
