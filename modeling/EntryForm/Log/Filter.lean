import EntryForm.Log
import EntryForm.Text.Blank
import EntryForm.Text.Count
import EntryForm.Text.Letters
import EntryForm.Text.Pieces

/-!
# Log — filters

A filter is a list of directives between commas, as in `warn,parser=trace`.  A directive says down
to which level events are written, of the whole program or of the parts whose names begin with its
target.  The most specific directive that concerns an event decides.
-/

namespace EntryForm.Log

/-- A rule of a filter. -/
structure Directive where
  /-- The rank of the least important level that is written. -/
  rank : Nat
  target : Option String := none
  /-- Fields that an event must have. -/
  fields : List String := []
  /-- The rule asks for an activity or for the value of a field, and no event here has either. -/
  remote : Bool := false
  deriving DecidableEq, Repr

namespace Directive

/-! ### Reading -/

/-- The rank of a level, by name or by number. -/
def rankOf? (text : String) : Option Nat :=
  match Text.Count.read text with
  | .ok n => if n ≤ Level.trace.rank then some n else none
  | .error _ =>
      match Text.lowerAscii text with
      | "" => some Level.error.rank
      | "off" => some 0
      | small => (Level.all.find? fun l => Text.lowerAscii l.name == small).map Level.rank

/-- How far a directive is read; a number is the position where a piece begins. -/
inductive Stage where
  | start
  | levelOrTarget (first : Nat)
  | activity (first : Nat)
  | field (first : Nat)
  | fields
  | target
  | level (first : Nat)

/-- A directive that is being read from a text. -/
structure Draft where
  text : List Char
  directive : Directive := { rank := Level.trace.rank }
  stage : Stage := .start

namespace Draft

/-- The piece of the text from one position to before another. -/
def piece (d : Draft) (first stop : Nat) : String :=
  String.ofList ((d.text.take stop).drop first)

/-- A first character of a level or a target. -/
def canStart (c : Char) : Bool := c == '-' || c == ':' || c == '_' || Text.isLetterOrNumber c

/-- The draft with a target, at a new stage. -/
def withTarget (d : Draft) (target : String) (stage : Stage) : Draft :=
  { d with directive := { d.directive with target := some target }, stage := stage }

/-- The draft with a rule that is remote if it was or `more` holds, at a new stage. -/
def withRemote (d : Draft) (more : Bool) (stage : Stage) : Draft :=
  { d with
    directive := { d.directive with remote := d.directive.remote || more }
    stage := stage }

/-- The draft with a field, which may come with a value; a field without a text is refused. -/
def withField? (d : Draft) (text : String) (stage : Stage) : Option Draft :=
  if text.isEmpty then none
  else
    let name := text.toList.takeWhile (· ≠ '=')
    let directive := { d.directive with fields := d.directive.fields ++ [String.ofList name] }
    some ({ d with directive := directive }.withRemote (name.length < text.length) stage)

/-- Takes up the character at position `i`. -/
def step? (d : Draft) (i : Nat) (c : Char) : Option Draft :=
  match d.stage with
  | .start =>
      if c = '[' then some { d with stage := .activity (i + 1) }
      else if canStart c then some { d with stage := .levelOrTarget i }
      else none
  | .levelOrTarget first =>
      if c = '=' then some (d.withTarget (d.piece first i) (.level (i + 1)))
      else if c = '[' then some (d.withTarget (d.piece first i) (.activity (i + 1)))
      else some d
  | .target => if c = '=' then some { d with stage := .level (i + 1) } else none
  | .activity first =>
      if c = ']' then some (d.withRemote true .target)
      else if c = '\x7b' then some (d.withRemote (first < i) (.field (i + 1)))
      else some d
  | .field first => if c = '\x7d' then d.withField? (d.piece first i) .fields else some d
  | .fields => if c = ']' then some { d with stage := .target } else none
  | .level _ => some d

/-- Takes up the characters from position `i` on. -/
def steps? (d : Draft) : Nat → List Char → Option Draft
  | _, [] => some d
  | i, c :: rest =>
      match d.step? i c with
      | none => none
      | some d' => steps? d' (i + 1) rest

/-- The directive of a finished draft.  A text that names no level is a target. -/
def finish? (d : Draft) : Option Directive :=
  match d.stage with
  | .levelOrTarget first =>
      let last := d.piece first d.text.length
      match if last.isEmpty then some Level.trace.rank else rankOf? last with
      | some n => some { d.directive with rank := n }
      | none => some { d.directive with target := some last }
  | .level first =>
      let last := d.piece first d.text.length
      match if last.isEmpty then some Level.trace.rank else rankOf? last with
      | some n => some { d.directive with rank := n }
      | none => none
  | .target => some d.directive
  | _ => none

end Draft

/-- Reads a directive.  Blanks at its ends are passed over in the scan, while pieces are cut by
position from the text as it stands. -/
def read? (text : String) : Option Directive :=
  let start : Draft := { text := text.toList }
  (start.steps? 0 (Text.trim text).toList).bind Draft.finish?

/-! ### Choosing -/

/-- The rule concerns an event. -/
def concerns (d : Directive) (e : Event) : Bool :=
  !d.remote &&
    (match d.target with
      | none => true
      | some target => target.toList.isPrefixOf e.source.toList) &&
    d.fields.all fun name => name == "message" || (e.fields.lookup name).isSome

/-- The first rule is at least as specific as the second: it has a target, a longer one, or as
long a one and as many fields. -/
def isAsSpecific (a b : Directive) : Bool :=
  match a.target, b.target with
  | some s, some t =>
      t.utf8ByteSize < s.utf8ByteSize ||
        (t.utf8ByteSize == s.utf8ByteSize && b.fields.length ≤ a.fields.length)
  | some _, none => true
  | none, some _ => false
  | none, none => b.fields.length ≤ a.fields.length

end Directive

/-- Which events are written. -/
structure Filter where
  directives : List Directive
  deriving DecidableEq, Repr

namespace Filter

/-- Reads a filter; a text with an unreadable directive is none. -/
def read? (text : String) : Option Filter :=
  let pieces := (Text.pieces ',' text.toList).filter fun piece => !piece.isEmpty
  (pieces.mapM fun piece => Directive.read? (String.ofList piece)).map Filter.mk

/-- Everything down to a level. -/
def downTo (l : Level) : Filter := ⟨[{ rank := l.rank }]⟩

/-- The more specific of two rules, the second if they are equally specific. -/
def prefer (best : Option Directive) (d : Directive) : Option Directive :=
  match best with
  | none => some d
  | some b => if d.isAsSpecific b then some d else some b

/-- The most specific rule that concerns an event; of equally specific ones the last. -/
def rule? (f : Filter) (e : Event) : Option Directive :=
  (f.directives.filter (·.concerns e)).foldl prefer none

/-- The event is written. -/
def accepts (f : Filter) (e : Event) : Bool :=
  match f.rule? e with
  | some d => e.level.rank ≤ d.rank
  | none => false

/-- The lines of the events that are written. -/
def lines (f : Filter) (es : List Event) : List String := (es.filter f.accepts).map Event.line

end Filter

end EntryForm.Log
