import EntryForm.Yaml.Event
import EntryForm.Yaml.Token.Lexer

/-!
# YAML — from tokens to events

The grammar of documents over tokens.  A parse goes from one state to the next: the tokens left
and the events so far.  Where the grammar or the tokens break off, the events so far are kept with
the problem, since a reader of the events may find a fault before it gets there.
-/

namespace EntryForm.Yaml

/-- A state of a parse. -/
structure Parse where
  tokens : List Token
  /-- Why there are no more tokens, if the text has a problem. -/
  problem : Option Problem
  /-- The handles of tags and what they stand for. -/
  handles : List (String × String) := []
  /-- The events so far, last first. -/
  events : List Event := []

/-- A parse that broke off, with the events before that. -/
structure Broken where
  events : List Event
  problem : Problem

namespace Parse

abbrev Result := Except Broken Parse

/-- The problem breaks the parse off. -/
def break_ {α : Type} (p : Parse) (problem : Problem) : Except Broken α :=
  .error ⟨p.events, problem⟩

/-- The next token. -/
def peek (p : Parse) : Except Broken Token :=
  match p.tokens with
  | t :: _ => .ok t
  | [] => p.break_ (p.problem.getD { stage := .tokens, text := "" })

/-- Beyond the next token. -/
def next (p : Parse) : Parse := { p with tokens := p.tokens.drop 1 }

/-- One more event. -/
def emit (p : Parse) (e : Event) : Parse := { p with events := e :: p.events }

/-- A problem of the grammar. -/
def fail {α : Type} (p : Parse) (text : String) (mark : Mark) : Except Broken α :=
  p.break_ { stage := .grammar, text, mark }

/-- A problem of the grammar inside something that began at `start`. -/
def failIn {α : Type} (p : Parse) (context : String) (start : Mark) (text : String)
    (mark : Mark) : Except Broken α :=
  p.break_ { stage := .grammar, text, mark, context := some (context, start) }

/-- An empty scalar. -/
def blank (p : Parse) (mark : Mark) : Parse := p.emit (.blank mark)

/-! ### Properties of nodes -/

/-- The anchor and the tag before a node, and where they begin. -/
structure Properties where
  start : Mark
  anchor : Option String := none
  /-- Handle, suffix and mark of the tag. -/
  tag : Option (String × String × Mark) := none

/-- Reads an anchor and a tag, in either order, each at most once. -/
def properties (p : Parse) : Except Broken (Properties × Parse) := do
  let t ← p.peek
  match t.kind with
  | .anchor name =>
      let p := p.next
      let u ← p.peek
      match u.kind with
      | .tag handle suffix =>
          .ok ({ start := t.start, anchor := some name, tag := some (handle, suffix, u.start) },
            p.next)
      | _ => .ok ({ start := t.start, anchor := some name }, p)
  | .tag handle suffix =>
      let p := p.next
      let u ← p.peek
      match u.kind with
      | .anchor name =>
          .ok ({ start := t.start, anchor := some name, tag := some (handle, suffix, t.start) },
            p.next)
      | _ => .ok ({ start := t.start, tag := some (handle, suffix, t.start) }, p)
  | _ => .ok ({ start := t.start }, p)

/-- The full text of a tag. -/
def resolveTag (p : Parse) (props : Properties) : Except Broken (Option String) :=
  match props.tag with
  | none => .ok none
  | some (handle, suffix, mark) =>
      if handle.isEmpty then .ok (some suffix)
      else
        match p.handles.lookup handle with
        | some lead => .ok (some (lead ++ suffix))
        | none =>
            p.failIn "while parsing a node" props.start "found undefined tag handle" mark

/-! ### Nodes -/

/-- What may stand between the entries of a collection, and so end an empty entry. -/
def isOneOf (kinds : List Token.Kind) (t : Token) : Bool := kinds.contains t.kind

mutual

/-- Reads a node.  `block` admits block collections, `flat` a sequence that is not indented. -/
def node : Nat → (block flat : Bool) → Parse → Result
  | 0, _, _, p => .ok p
  | fuel + 1, block, flat, p => do
      let t ← p.peek
      match t.kind with
      | .alias name => .ok (p.next.emit { kind := .alias name, mark := t.start })
      | _ =>
          let (props, p) ← p.properties
          let tag ← p.resolveTag props
          let t ← p.peek
          let start : Event :=
            { kind := .sequenceStart, mark := props.start, tag, anchor := props.anchor }
          match t.kind with
          | .scalar text style =>
              let tag := if tag == some "!" then none else tag
              .ok (p.next.emit { start with kind := .scalar text style, tag })
          | .flowSequenceStart => flowSequence fuel t.start true (p.next.emit start)
          | .flowMappingStart =>
              flowMapping fuel t.start true (p.next.emit { start with kind := .mappingStart })
          | kind =>
              if flat && kind == .blockEntry then flatSequence fuel (p.emit start)
              else if block && kind == .blockSequenceStart then
                blockSequence fuel t.start (p.next.emit start)
              else if block && kind == .blockMappingStart then
                blockMapping fuel t.start (p.next.emit { start with kind := .mappingStart })
              else if props.anchor.isSome || props.tag.isSome then
                .ok (p.emit { start with kind := .scalar "" .plain })
              else
                p.failIn
                  (if block then "while parsing a block node" else "while parsing a flow node")
                  props.start "did not find expected node content" t.start

/-- Reads the entries of an indented block sequence, and its end. -/
def blockSequence : Nat → (start : Mark) → Parse → Result
  | 0, _, p => .ok p
  | fuel + 1, start, p => do
      let t ← p.peek
      match t.kind with
      | .blockEntry =>
          let p := p.next
          let u ← p.peek
          let p ←
            if isOneOf [.blockEntry, .blockEnd] u then .ok (p.blank t.stop)
            else node fuel true false p
          blockSequence fuel start p
      | .blockEnd => .ok (p.next.emit { kind := .sequenceEnd, mark := t.start })
      | _ =>
          p.failIn "while parsing a block collection" start "did not find expected '-' indicator"
            t.start

/-- Reads the entries of a sequence that is not indented, up to what follows it. -/
def flatSequence : Nat → Parse → Result
  | 0, p => .ok p
  | fuel + 1, p => do
      let t ← p.peek
      match t.kind with
      | .blockEntry =>
          let p := p.next
          let u ← p.peek
          let p ←
            if isOneOf [.blockEntry, .key, .value, .blockEnd] u then .ok (p.blank t.stop)
            else node fuel true false p
          flatSequence fuel p
      | _ => .ok (p.emit { kind := .sequenceEnd, mark := t.start })

/-- Reads the pairs of a block mapping, and its end. -/
def blockMapping : Nat → (start : Mark) → Parse → Result
  | 0, _, p => .ok p
  | fuel + 1, start, p => do
      let t ← p.peek
      match t.kind with
      | .key =>
          let p := p.next
          let u ← p.peek
          let p ←
            if isOneOf [.key, .value, .blockEnd] u then .ok (p.blank t.stop)
            else node fuel true true p
          let v ← p.peek
          let p ← match v.kind with
            | .value => do
                let p := p.next
                let w ← p.peek
                if isOneOf [.key, .value, .blockEnd] w then .ok (p.blank v.stop)
                else node fuel true true p
            | _ => .ok (p.blank v.start)
          blockMapping fuel start p
      | .blockEnd => .ok (p.next.emit { kind := .mappingEnd, mark := t.start })
      | .value =>
          -- a value without a key
          p.failIn "while parsing a block mapping" start "did not find expected key" t.start
      | _ => p.failIn "while parsing a block mapping" start "did not find expected key" t.start

/-- Reads the entries of a flow sequence, and its end.  A pair among them is a mapping of its
own. -/
def flowSequence : Nat → (start : Mark) → (first : Bool) → Parse → Result
  | 0, _, _, p => .ok p
  | fuel + 1, start, first, p => do
      let t ← p.peek
      if t.kind == .flowSequenceEnd then
        return p.next.emit { kind := .sequenceEnd, mark := t.start }
      let p ←
        if first then .ok p
        else if t.kind == .flowEntry then .ok p.next
        else
          p.failIn "while parsing a flow sequence" start "did not find expected ',' or ']'" t.start
      let t ← p.peek
      match t.kind with
      | .flowSequenceEnd => .ok (p.next.emit { kind := .sequenceEnd, mark := t.start })
      | .key =>
          let p ← flowPair fuel (p.next.emit { kind := .mappingStart, mark := t.start })
          flowSequence fuel start false p
      | _ =>
          let p ← node fuel false false p
          flowSequence fuel start false p

/-- Reads a pair inside a flow sequence, behind its start, and ends it. -/
def flowPair : Nat → Parse → Result
  | 0, p => .ok p
  | fuel + 1, p => do
      let t ← p.peek
      let p ←
        if isOneOf [.value, .flowEntry, .flowSequenceEnd] t then .ok (p.next.blank t.stop)
        else node fuel false false p
      let v ← p.peek
      let p ← match v.kind with
        | .value => do
            let p := p.next
            let w ← p.peek
            if isOneOf [.flowEntry, .flowSequenceEnd] w then .ok (p.blank w.start)
            else node fuel false false p
        | _ => .ok (p.blank v.start)
      let t ← p.peek
      .ok (p.emit { kind := .mappingEnd, mark := t.start })

/-- Reads the pairs of a flow mapping, and its end. -/
def flowMapping : Nat → (start : Mark) → (first : Bool) → Parse → Result
  | 0, _, _, p => .ok p
  | fuel + 1, start, first, p => do
      let t ← p.peek
      if t.kind == .flowMappingEnd then
        return p.next.emit { kind := .mappingEnd, mark := t.start }
      let p ←
        if first then .ok p
        else if t.kind == .flowEntry then .ok p.next
        else
          p.failIn "while parsing a flow mapping" start
            "did not find expected ',' or '\x7d'" t.start
      let t ← p.peek
      match t.kind with
      | .flowMappingEnd => .ok (p.next.emit { kind := .mappingEnd, mark := t.start })
      | .key =>
          let p := p.next
          let u ← p.peek
          let p ←
            if isOneOf [.value, .flowEntry, .flowMappingEnd] u then .ok (p.blank u.start)
            else node fuel false false p
          let v ← p.peek
          let p ← match v.kind with
            | .value => do
                let p := p.next
                let w ← p.peek
                if isOneOf [.flowEntry, .flowMappingEnd] w then .ok (p.blank w.start)
                else node fuel false false p
            | _ => .ok (p.blank v.start)
          flowMapping fuel start false p
      | _ =>
          let p ← node fuel false false p
          let v ← p.peek
          flowMapping fuel start false (p.blank v.start)

end

/-! ### Documents -/

/-- The handles that need no directive. -/
def standardHandles : List (String × String) := [("!", "!"), ("!!", "tag:yaml.org,2002:")]

/-- Reads the directives before a document. -/
def directives : Nat → (version : Bool) → List (String × String) → Parse → Result
  | 0, _, _, p => .ok p
  | fuel + 1, version, handles, p => do
      let t ← p.peek
      match t.kind with
      | .version major minor =>
          if version then p.fail "found duplicate %YAML directive" t.start
          else if major ≠ 1 ∨ (minor ≠ 1 ∧ minor ≠ 2) then
            p.fail "found incompatible YAML document" t.start
          else directives fuel true handles p.next
      | .tagDirective handle lead =>
          if (handles.lookup handle).isSome then
            p.fail "found duplicate %TAG directive" t.start
          else directives fuel version (handles ++ [(handle, lead)]) p.next
      | _ => .ok { p with handles := handles ++ standardHandles }

/-- Reads the first document of a text, up to the indicator that ends it.  The answer tells
whether there was one; if not, it gives the mark of the end. -/
def firstDocument (fuel : Nat) (p : Parse) : Except Broken (Option Mark × Parse) := do
  let _ ← p.peek
  let p := p.next
  let t ← p.peek
  if t.kind == .streamEnd then return (some t.start, p)
  let explicit : Bool := match t.kind with
    | .version .. | .tagDirective .. | .documentStart => true
    | _ => false
  let p ← p.directives fuel false []
  let t ← p.peek
  let p ←
    if !explicit then node fuel true false p
    else if t.kind == .documentStart then do
      let p := p.next
      let u ← p.peek
      match u.kind with
      | .version .. | .tagDirective .. | .documentStart | .documentEnd | .streamEnd =>
          .ok (p.blank u.start)
      | _ => node fuel true false p
    else p.fail "did not find expected <document start>" t.start
  let _ ← p.peek
  .ok (none, p)

/-- Is there anything behind the first document but its end? -/
def hasMore (p : Parse) : Bool :=
  match p.tokens.dropWhile (·.kind == .documentEnd) with
  | [t] => t.kind != .streamEnd
  | _ => true

end Parse

end EntryForm.Yaml
