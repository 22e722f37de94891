/-!
# Patterns — the parts of a regular expression

A regular expression as it is written: every part with the span of text it takes up.  A class in
brackets holds items and other classes, joined side by side or by an operator.
-/

namespace EntryForm.Pattern

/-- A place in a pattern: the characters before it, and its line and column from one. -/
structure Place where
  index : Nat := 0
  line : Nat := 1
  column : Nat := 1
  deriving DecidableEq, Repr

/-- A stretch of a pattern; its end is not in it. -/
structure Span where
  start : Place
  stop : Place
  deriving DecidableEq, Repr

/-- The empty span at a place. -/
def Span.point (p : Place) : Span := ⟨p, p⟩

/-! ### Flags -/

/-- What a flag turns on. -/
inductive Flag where
  | anyCase | manyLines | dotAll | lazily | unicode | carriageReturn | spaced
  deriving DecidableEq, Repr

/-- A flag or the sign that negates those after it. -/
inductive FlagItem where
  | flag (f : Flag)
  | negation
  deriving DecidableEq, Repr

/-- What the flags set a flag to, if they do. -/
def Flag.setBy? (f : Flag) : List FlagItem → (negated : Bool) → Option Bool
  | [], _ => none
  | .negation :: rest, _ => f.setBy? rest true
  | .flag g :: rest, negated => if g = f then some !negated else f.setBy? rest negated

/-! ### Classes -/

/-- The classes with a letter of their own. -/
inductive Shorthand where
  | digit | space | word
  deriving DecidableEq, Repr

/-- The classes of ASCII characters with a name. -/
inductive Named where
  | alnum | alpha | ascii | blank | cntrl | digit | graph | lower | print | punct | space | upper
  | word | xdigit
  deriving DecidableEq, Repr

/-- The named class, if there is one. -/
def Named.ofName? (name : String) : Option Named :=
  [("alnum", alnum), ("alpha", alpha), ("ascii", ascii), ("blank", blank), ("cntrl", cntrl),
    ("digit", digit), ("graph", graph), ("lower", lower), ("print", print), ("punct", punct),
    ("space", space), ("upper", upper), ("word", word), ("xdigit", xdigit)].lookup name

/-- The characters of a named class, as ranges. -/
def Named.ranges : Named → List (Nat × Nat)
  | alnum => [(48, 57), (65, 90), (97, 122)]
  | alpha => [(65, 90), (97, 122)]
  | ascii => [(0, 127)]
  | blank => [(9, 9), (32, 32)]
  | cntrl => [(0, 31), (127, 127)]
  | digit => [(48, 57)]
  | graph => [(33, 126)]
  | lower => [(97, 122)]
  | print => [(32, 126)]
  | punct => [(33, 47), (58, 64), (91, 96), (123, 126)]
  | space => [(9, 13), (32, 32)]
  | upper => [(65, 90)]
  | word => [(48, 57), (65, 90), (95, 95), (97, 122)]
  | xdigit => [(48, 57), (65, 70), (97, 102)]

/-- How a Unicode property is asked for. -/
inductive Query where
  | binary (name : String)
  | valued (name value : String)
  deriving DecidableEq, Repr

/-- How two classes are joined. -/
inductive Operator where
  | intersection | difference | symmetricDifference
  deriving DecidableEq, Repr

/-- One character.  A byte is written with two hexadecimal digits. -/
structure Literal where
  span : Span
  char : Char
  byte : Bool := false
  deriving DecidableEq, Repr

/-- What stands in brackets. -/
inductive ClassSet where
  | empty (span : Span)
  | literal (l : Literal)
  | range (span : Span) (low high : Literal)
  | named (span : Span) (name : Named) (negated : Bool)
  | shorthand (span : Span) (kind : Shorthand) (negated : Bool)
  | property (span : Span) (query : Query) (negated : Bool)
  | bracketed (span : Span) (negated : Bool) (inner : ClassSet)
  | union (span : Span) (items : List ClassSet)
  | joined (span : Span) (op : Operator) (left right : ClassSet)
  deriving Repr

/-- Where the class stands. -/
def ClassSet.span : ClassSet → Span
  | empty s | range s _ _ | named s _ _ | shorthand s _ _ | property s _ _ | bracketed s _ _
  | union s _ | joined s _ _ _ => s
  | literal l => l.span

/-! ### Expressions -/

/-- Where a word stands: its ends, either of them, neither, or what stands before or after it. -/
inductive Edge where
  | either | neither | start | stop | startHalf | stopHalf
  deriving DecidableEq, Repr

/-- A place in the text. -/
inductive Look where
  /-- The beginning or the end of the text. -/
  | text (stop : Bool)
  /-- The beginning or the end of a line if lines count, else of the text. -/
  | line (stop : Bool)
  | word (edge : Edge)
  deriving DecidableEq, Repr

/-- How a group is opened. -/
inductive Opening where
  | capture
  | flags (items : List FlagItem)
  deriving DecidableEq, Repr

/-- A regular expression. -/
inductive Node where
  | empty (span : Span)
  | flags (span : Span) (items : List FlagItem)
  | literal (l : Literal)
  | dot (span : Span)
  | assertion (span : Span) (look : Look)
  | shorthand (span : Span) (kind : Shorthand) (negated : Bool)
  | property (span : Span) (query : Query) (negated : Bool)
  | bracketed (span : Span) (negated : Bool) (inner : ClassSet)
  /-- As few as will do, if `lazily`. -/
  | repetition (span : Span) (least : Nat) (most : Option Nat) (lazily : Bool) (inner : Node)
  | group (span : Span) (opening : Opening) (inner : Node)
  | alternation (span : Span) (branches : List Node)
  | concat (span : Span) (parts : List Node)
  deriving Repr

namespace Node

/-- Where the expression stands. -/
def span : Node → Span
  | empty s | flags s _ | dot s | assertion s _ | shorthand s _ _ | property s _ _
  | bracketed s _ _ | repetition s _ _ _ _ | group s _ _ | alternation s _ | concat s _ => s
  | literal l => l.span

/-- The expressions in a row. -/
def row (s : Span) : List Node → Node
  | [] => empty s
  | [n] => n
  | ns => concat s ns

end Node

end EntryForm.Pattern
