import EntryForm.Yaml.Token.Property

/-!
# YAML — from a text to tokens

The lexer goes through a text once.  It keeps the indentation of the open block collections, from
which their beginnings and ends follow, and for each open flow collection the place where a key
may have begun: a key is recognised only by the colon behind it, and then the tokens that announce
it are put in before it.

A key that might still turn out to begin at a token holds that token back.  So when the text
breaks off with a problem, the tokens given out are those before the first one held back
(`Tokens.released`).
-/

namespace EntryForm.Yaml

/-- A place where a key may have begun. -/
structure KeyStart where
  /-- A key has to begin here, because of the indentation. -/
  required : Bool
  /-- The number of the token that would be the key. -/
  token : Nat
  mark : Mark

/-- The state of the lexer. -/
structure Lexer where
  cursor : Cursor
  /-- The tokens so far, last first. -/
  tokens : List Token := []
  /-- How many there are. -/
  count : Nat := 0
  /-- The place where a key may have begun, for each open flow collection, innermost first, and
  last for the block context. -/
  keys : List (Option KeyStart) := [none]
  /-- A key may begin here. -/
  keyAllowed : Bool := true
  /-- The column of the innermost block collection, or -1. -/
  indent : Int := -1
  /-- The columns of the block collections around it. -/
  outer : List Int := []

namespace Lexer

/-- The lexer is inside a flow collection. -/
def inFlow (x : Lexer) : Bool := x.keys.length > 1

/-- The mark reached. -/
def mark (x : Lexer) : Mark := x.cursor.mark

/-- Adds a token. -/
def push (x : Lexer) (t : Token) : Lexer :=
  { x with tokens := t :: x.tokens, count := x.count + 1 }

/-- Puts a token before the one with the given number. -/
def insert (x : Lexer) (number : Nat) (t : Token) : Lexer :=
  let later := x.count - number
  { x with
    tokens := x.tokens.take later ++ t :: x.tokens.drop later
    count := x.count + 1 }

/-- Adds the token made of the next `n` characters. -/
def take (x : Lexer) (n : Nat) (kind : Token.Kind) : Lexer :=
  let after := x.cursor.skipMany n
  { x.push ⟨kind, x.mark, after.mark⟩ with cursor := after }

/-! ### Keys -/

def expectedColon {α : Type} (x : Lexer) (start : KeyStart) : Except Problem α :=
  x.cursor.fail "while scanning a simple key" start.mark "could not find expected ':'"

/-- Gives up the keys that began on an earlier line, or more than 1024 characters ago. -/
def dropStale (x : Lexer) : Except Problem Lexer := do
  let keys ← x.keys.reverse.mapM fun key =>
    match key with
    | none => .ok none
    | some start =>
        if start.mark.line < x.mark.line || start.mark.index + 1024 < x.mark.index then
          if start.required then x.expectedColon start else .ok none
        else .ok (some start)
  .ok { x with keys := keys.reverse }

/-- Gives up the key of the innermost context. -/
def dropKey (x : Lexer) : Except Problem Lexer :=
  match x.keys with
  | some start :: rest =>
      if start.required then x.expectedColon start else .ok { x with keys := none :: rest }
  | _ => .ok x

/-- Notes that a key may begin here, if one may. -/
def noteKey (x : Lexer) : Except Problem Lexer := do
  if !x.keyAllowed then return x
  let start : KeyStart := {
    required := !x.inFlow && x.indent == (x.mark.column : Int)
    token := x.count
    mark := x.mark }
  let x ← x.dropKey
  match x.keys with
  | _ :: rest => .ok { x with keys := some start :: rest }
  | [] => .ok x

/-! ### Indentation -/

/-- Ends the block collections that are indented further than `column`. -/
def unroll (x : Lexer) (column : Int) : Lexer :=
  if x.inFlow then x else go x.outer x
where
  go : List Int → Lexer → Lexer
    | outer, x =>
        if column < x.indent then
          let x := x.push ⟨.blockEnd, x.mark, x.mark⟩
          match outer with
          | i :: outer => go outer { x with indent := i, outer }
          | [] => { x with indent := -1, outer := [] }
        else x

/-- Begins a block collection at a column, if none is open there; its token stands before the one
with the given number. -/
def roll (x : Lexer) (column : Nat) (number : Nat) (kind : Token.Kind) (mark : Mark) : Lexer :=
  if !x.inFlow && x.indent < (column : Int) then
    { x.insert number ⟨kind, mark, mark⟩ with indent := column, outer := x.indent :: x.outer }
  else x

/-! ### The tokens -/

/-- Passes blanks, comments and line breaks.  A tab counts as a blank only where no key may
begin. -/
def skipToToken : Nat → Lexer → Lexer
  | 0, x => x
  | fuel + 1, x =>
      let k := x.cursor
      let k := if k.mark.column == 0 && nextIs '\uFEFF' k.rest then k.skip else k
      let tabs := x.inFlow || !x.keyAllowed
      let k := (k.skipWhile fun c => c == ' ' || (tabs && c == '\t')).skipComment
      if atBreak k.rest then
        skipToToken fuel
          { x with cursor := k.skipBreak, keyAllowed := x.keyAllowed || !x.inFlow }
      else { x with cursor := k }

/-- The end of the text. -/
def fetchEnd (x : Lexer) : Except Problem Lexer := do
  let mark := x.mark
  let mark := if mark.column = 0 then mark else { mark with line := mark.line + 1, column := 0 }
  let x := { x with cursor := { x.cursor with mark } }
  let x ← (x.unroll (-1)).dropKey
  .ok { x.push ⟨.streamEnd, mark, mark⟩ with keyAllowed := false }

/-- A directive or a document indicator: what begins at the margin and ends every collection. -/
def atMargin (x : Lexer) : Except Problem Lexer := do
  let x ← (x.unroll (-1)).dropKey
  .ok { x with keyAllowed := false }

/-- The beginning of a flow collection. -/
def fetchFlowStart (x : Lexer) (kind : Token.Kind) : Except Problem Lexer := do
  let x ← x.noteKey
  .ok ({ x with keys := none :: x.keys, keyAllowed := true }.take 1 kind)

/-- The end of a flow collection. -/
def fetchFlowEnd (x : Lexer) (kind : Token.Kind) : Except Problem Lexer := do
  let x ← x.dropKey
  let keys := if x.inFlow then x.keys.drop 1 else x.keys
  .ok ({ x with keys, keyAllowed := false }.take 1 kind)

/-- A comma in a flow collection. -/
def fetchFlowEntry (x : Lexer) : Except Problem Lexer := do
  let x ← x.dropKey
  .ok ({ x with keyAllowed := true }.take 1 .flowEntry)

/-- The dash of a block sequence. -/
def fetchBlockEntry (x : Lexer) : Except Problem Lexer := do
  if !x.inFlow && !x.keyAllowed then
    x.cursor.failBare "block sequence entries are not allowed in this context"
  else
    let x := x.roll x.mark.column x.count .blockSequenceStart x.mark
    let x ← x.dropKey
    .ok ({ x with keyAllowed := true }.take 1 .blockEntry)

/-- The question mark before a key. -/
def fetchKey (x : Lexer) : Except Problem Lexer := do
  if !x.inFlow && !x.keyAllowed then
    x.cursor.failBare "mapping keys are not allowed in this context"
  else
    let x := x.roll x.mark.column x.count .blockMappingStart x.mark
    let x ← x.dropKey
    .ok ({ x with keyAllowed := !x.inFlow }.take 1 .key)

/-- The colon behind a key. -/
def fetchValue (x : Lexer) : Except Problem Lexer :=
  match x.keys with
  | some start :: rest =>
      let x := x.insert start.token ⟨.key, start.mark, start.mark⟩
      let x := x.roll start.mark.column start.token .blockMappingStart start.mark
      .ok ({ x with keys := none :: rest, keyAllowed := false }.take 1 .value)
  | _ =>
      if !x.inFlow && !x.keyAllowed then
        x.cursor.failBare "mapping values are not allowed in this context"
      else
        let x := x.roll x.mark.column x.count .blockMappingStart x.mark
        .ok ({ x with keyAllowed := !x.inFlow }.take 1 .value)

/-- A token that may be a key, read by `read`. -/
def fetchKeyLike (x : Lexer) (read : Cursor → Except Problem (Token × Cursor)) :
    Except Problem Lexer := do
  let x ← x.noteKey
  let (t, after) ← read x.cursor
  .ok { x.push t with cursor := after, keyAllowed := false }

/-- A block scalar. -/
def fetchBlockScalar (x : Lexer) (literal : Bool) : Except Problem Lexer := do
  let x ← x.dropKey
  let (t, after) ← blockScalar literal x.indent x.cursor
  .ok { x.push t with cursor := after, keyAllowed := true }

/-- A plain scalar.  A line break behind it lets a key begin. -/
def fetchPlain (x : Lexer) : Except Problem Lexer := do
  let x ← x.noteKey
  let (t, broken, after) ← plainScalar x.inFlow x.indent x.cursor
  .ok { x.push t with cursor := after, keyAllowed := broken }

/-- A directive. -/
def fetchDirective (x : Lexer) : Except Problem Lexer := do
  let x ← x.atMargin
  let (t, after) ← directiveToken x.cursor
  .ok { x.push t with cursor := after }

/-- A character no token begins with, unless more follows. -/
def isIndicator (c : Char) : Bool :=
  c == '-' || c == '?' || c == ':' || c == ',' || c == '[' || c == ']' || c == '{' || c == '}' ||
    c == '#' || c == '&' || c == '*' || c == '!' || c == '|' || c == '>' || c == '\'' ||
    c == '"' || c == '%' || c == '@' || c.toNat == 0x60

/-- A plain scalar begins here: not at an indicator, except a dash, question mark or colon that is
not followed by a blank. -/
def startsPlain (inFlow : Bool) : List Char → Bool
  | [] => false
  | '-' :: rest => !atBlank rest
  | c :: rest =>
      if c == '?' || c == ':' then !inFlow && !atBlankOrEnd rest
      else !(isBlankChar c || isBreakChar c || isIndicator c)

/-- Reads the next token, and whatever it brings about. -/
def fetch (x : Lexer) : Except Problem Lexer := do
  let x := skipToToken (x.cursor.rest.length + 1) x
  let x ← x.dropStale
  let x := x.unroll x.mark.column
  let cs := x.cursor.rest
  let margin := x.mark.column == 0
  match cs with
  | [] => x.fetchEnd
  | c :: rest =>
      if margin && c == '%' then x.fetchDirective
      else if margin && atIndicator '-' cs then
        let x ← x.atMargin
        .ok (x.take 3 .documentStart)
      else if margin && atIndicator '.' cs then
        let x ← x.atMargin
        .ok (x.take 3 .documentEnd)
      else if c == '[' then x.fetchFlowStart .flowSequenceStart
      else if c == '{' then x.fetchFlowStart .flowMappingStart
      else if c == ']' then x.fetchFlowEnd .flowSequenceEnd
      else if c == '}' then x.fetchFlowEnd .flowMappingEnd
      else if c == ',' then x.fetchFlowEntry
      else if c == '-' && atBlankOrEnd rest then x.fetchBlockEntry
      else if c == '?' && (x.inFlow || atBlankOrEnd rest) then x.fetchKey
      else if c == ':' && (x.inFlow || atBlankOrEnd rest) then x.fetchValue
      else if c == '*' then x.fetchKeyLike (anchorToken true)
      else if c == '&' then x.fetchKeyLike (anchorToken false)
      else if c == '!' then x.fetchKeyLike (tagToken x.inFlow)
      else if c == '|' && !x.inFlow then x.fetchBlockScalar true
      else if c == '>' && !x.inFlow then x.fetchBlockScalar false
      else if c == '\'' then x.fetchKeyLike (quotedScalar true)
      else if c == '"' then x.fetchKeyLike (quotedScalar false)
      else if startsPlain x.inFlow cs then x.fetchPlain
      else
        x.cursor.fail "while scanning for the next token" x.mark
          "found character that cannot start any token"

/-- The number of the first token held back. -/
def held (x : Lexer) : Nat :=
  x.keys.foldl (fun n key => match key with
    | some start => min n start.token
    | none => n) x.count

/-- The last token is the end of the text. -/
def atEnd (x : Lexer) : Bool :=
  match x.tokens with
  | t :: _ => t.kind == .streamEnd
  | [] => false

end Lexer

/-- The tokens of a text, as far as they are known, and the problem that ended them. -/
structure Tokens where
  released : List Token
  problem : Option Problem

/-- Reads tokens to the end of the text or to the first problem. -/
def Lexer.run : Nat → Lexer → Tokens
  | 0, x => ⟨x.tokens.reverse, none⟩
  | fuel + 1, x =>
      if x.atEnd then ⟨x.tokens.reverse, none⟩
      else
        match x.fetch >>= Lexer.dropStale with
        | .ok x => run fuel x
        | .error problem => ⟨x.tokens.reverse.take x.held, some problem⟩

/-- The tokens of a text. -/
def Tokens.ofText (text : String) : Tokens :=
  match Cursor.start text with
  | .error problem => ⟨[], some problem⟩
  | .ok cursor =>
      let x : Lexer := { cursor }
      Lexer.run (2 * text.length + 8) (x.push ⟨.streamStart, x.mark, x.mark⟩)

end EntryForm.Yaml
