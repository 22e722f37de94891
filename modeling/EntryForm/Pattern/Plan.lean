import EntryForm.Pattern.Members
import EntryForm.Pattern.Trie

/-!
# Patterns — what an expression comes to

A `Plan` is an expression with all that is only a way of writing put aside: texts in a row are one
text, rows and choices in each other are one, a choice among characters or classes is a class, and
what all branches of a choice begin with stands before it.  From it comes the size of the machines
that the expression is compiled to.
-/

namespace EntryForm.Pattern

/-- What an expression comes to. -/
inductive Plan where
  /-- The empty text. -/
  | nothing
  | text (bytes : List Nat)
  | members (unicode : Bool) (a : Members)
  /-- A place in the text.  What `flag` tells apart depends on the kind of place. -/
  | look (l : Look) (flag : Bool)
  | repeated (least : Nat) (most : Option Nat) (lazily : Bool) (inner : Plan)
  | captured (inner : Plan)
  | row (parts : List Plan)
  | oneOf (branches : List Plan)
  deriving Repr

namespace Plan

/-! ### What is matched -/

mutual

/-- The least number of bytes that are matched, if there is a match; a class counts as one. -/
def least? : Plan → Option Nat
  | nothing | look _ _ => some 0
  | text bytes => some bytes.length
  | members _ a => if a.ranges.isEmpty && a.properties.isNone then none else some 1
  | repeated least _ _ inner => inner.least?.map (least * ·)
  | captured inner => inner.least?
  | row parts => (leasts? parts).map List.sum
  | oneOf branches => (leasts? branches).bind List.min?

/-- The least numbers of bytes, if all can be matched. -/
def leasts? : List Plan → Option (List Nat)
  | [] => some []
  | e :: rest => do some ((← e.least?) :: (← leasts? rest))

end

/-- The text is not empty in any match. -/
def consumes (e : Plan) : Bool := e.least?.any (0 < ·)

mutual

/-- The text is empty in all matches. -/
def emptyOnly : Plan → Bool
  | nothing | look _ _ => true
  | text _ | members _ _ => false
  | repeated _ _ _ inner | captured inner => inner.emptyOnly
  | row es | oneOf es => allEmptyOnly es

/-- The text is empty in all matches of all of them. -/
def allEmptyOnly : List Plan → Bool
  | [] => true
  | e :: rest => e.emptyOnly && allEmptyOnly rest

end

mutual

/-- The same expression.  What is captured is never the same; properties of the same sizes are
taken for the same. -/
def same : Plan → Plan → Bool
  | nothing, nothing => true
  | text a, text b => a == b
  | members u a, members v b => u == v && a == b
  | look k a, look l b => k == l && a == b
  | repeated least most lazily e, repeated least' most' lazily' f =>
      least == least' && most == most' && lazily == lazily' && e.same f
  | row es, row fs | oneOf es, oneOf fs => sameAll es fs
  | _, _ => false

/-- The same expressions. -/
def sameAll : List Plan → List Plan → Bool
  | [], [] => true
  | e :: es, f :: fs => e.same f && sameAll es fs
  | _, _ => false

end

/-! ### Simple forms -/

/-- A character of a class. -/
def ofMembers (unicode : Bool) (a : Members) : Plan :=
  match a.ranges, a.properties with
  | [(c, d)], none => if c = d then text (encode c) else members unicode a
  | _, _ => members unicode a

/-- The text, if it is nothing else. -/
def text? : Plan → Option (List Nat)
  | text bytes => some bytes
  | _ => none

/-- The class, if it is nothing else. -/
def members? : Plan → Option Members
  | members _ a => some a
  | _ => none

/-- The parts in a row. -/
def parts? : Plan → Option (List Plan)
  | row parts => some parts
  | _ => none

/-- Texts side by side are one text. -/
def joinTexts : List Plan → List Plan
  | [] => []
  | text a :: rest =>
      match joinTexts rest with
      | text b :: rest => text (a ++ b) :: rest
      | rest => text a :: rest
  | e :: rest => e :: joinTexts rest

/-- Expressions in a row. -/
def inRow (es : List Plan) : Plan :=
  let parts := es.flatMap fun
    | nothing => []
    | row parts => parts
    | e => [e]
  match joinTexts parts with
  | [] => nothing
  | [e] => e
  | parts => row parts

/-- The code point of a text of one character. -/
def single? : List Nat → Option Nat
  | [a] => some a
  | [a, b] => if a < 0xC0 then none else some ((a - 0xC0) * 0x40 + (b - 0x80))
  | [a, b, c] =>
      if a < 0xE0 then none
      else some ((a - 0xE0) * 0x1000 + (b - 0x80) * 0x40 + (c - 0x80))
  | [a, b, c, d] =>
      if a < 0xF0 then none
      else some ((a - 0xF0) * 0x40000 + (b - 0x80) * 0x1000 + (c - 0x80) * 0x40 + (d - 0x80))
  | _ => none

/-- One of some expressions: a class, if all are characters or all are classes, or else what
`otherwise` makes of them. -/
def choice (otherwise : List Plan → Plan) (es : List Plan) : Plan :=
  let branches := es.flatMap fun
    | oneOf branches => branches
    | e => [e]
  match branches with
  | [] => members true {}
  | [e] => e
  | branches =>
      match branches.mapM fun e => e.text?.bind single?, branches.mapM members? with
      | some cs, _ => ofMembers true (.ofRanges (Ranges.union [] (cs.map fun c => (c, c))))
      | none, some sets => members true (sets.foldl .union {})
      | none, none => otherwise branches

/-- The longest beginning that two rows share. -/
def shared : List Plan → List Plan → List Plan
  | e :: es, f :: fs => if e.same f then e :: shared es fs else []
  | _, _ => []

/-- The longest beginning that all rows share. -/
def sharedByAll : List (List Plan) → List Plan
  | [] => []
  | first :: rest => rest.foldl shared first

/-- One of some expressions.  If all are rows that share their beginning, that comes first; what
is left of them shares none. -/
def alternatives : List Plan → Plan :=
  choice fun branches =>
    match branches.mapM parts? with
    | none => oneOf branches
    | some rows =>
        match sharedByAll rows with
        | [] => oneOf branches
        | beginning =>
            let rests := rows.map fun parts => inRow (parts.drop beginning.length)
            inRow (beginning ++ [choice oneOf rests])

/-- A repetition.  More than one empty text is no more than one, nothing at all is the empty text,
and an expression once is the expression. -/
def repetition (least : Nat) (most : Option Nat) (lazily : Bool) (e : Plan) : Plan :=
  let least := if e.emptyOnly then min least 1 else least
  let most := if e.emptyOnly then some (min (most.getD 1) 1) else most
  if most = some 0 then nothing
  else if least = 1 ∧ most = some 1 then e
  else repeated least most lazily e

/-! ### Sizes -/

/-- The size of a class. -/
def membersSize (unicode : Bool) (a : Members) : Size :=
  let ranges := if unicode || a.ranges.isEmpty then classSize a.ranges else asciiSize a.ranges
  match a.properties with
  | none => ranges
  | some (s, _) => if a.ranges.isEmpty then s else s.plus ranges

/-- A state with two branches. -/
def fork : Size := .both (Size.state + 2 * Size.branch)

/-- The size of a repetition of what has a size. -/
def repeatedSize (consumes : Bool) (size : Size) (least : Nat) : (most : Option Nat) → Size
  | none =>
      if least = 0 ∧ !consumes then ((size.plus fork).plus fork).plus (.both Size.state)
      else (size.times (max least 1)).plus fork
  | some most =>
      if least = 0 ∧ most = 1 then (size.plus fork).plus (.both Size.state)
      else if least = most then size.times least
      else
        ((size.times least).plus ((size.plus fork).times (most - least))).plus
          (.both (if least = 0 then 2 * Size.state else Size.state))

/-- The size of a choice among texts: the one machine reads them forwards, the other backwards. -/
def textsSize (texts : List (List Nat)) : Size where
  forward := Size.state + (Trie.ofTexts texts).size
  backward := Size.state + (Trie.ofTexts (texts.map List.reverse)).size

mutual

/-- The size of the machines that an expression is compiled to.  Only the one that reads forwards
captures. -/
def size : Plan → Size
  | nothing | look _ _ => .both Size.state
  | text bytes => .both (Size.state * bytes.length)
  | members unicode a => membersSize unicode a
  | repeated least most _ inner => repeatedSize inner.consumes inner.size least most
  | captured inner => inner.size.plus ⟨2 * Size.state, 0⟩
  | row parts => sizes parts
  | oneOf branches =>
      match branches.mapM text? with
      | some texts => textsSize texts
      | none => (sizes branches).plus (.both (2 * Size.state + Size.branch * branches.length))

/-- The size of the machines of all of them. -/
def sizes : List Plan → Size
  | [] => .both 0
  | e :: rest => e.size.plus (sizes rest)

end

/-- The size of what stands around an expression: a search for where it begins, the whole as a
group, and the state that tells that it matches. -/
def frameSize : Size := ⟨8 * Size.state, 4 * Size.state⟩

end Plan

end EntryForm.Pattern
