import EntryForm.Pattern.Property
import EntryForm.Pattern.Ranges

/-!
# Patterns — what a class means

A class that is well formed is refused if it could match text that is not UTF-8, or if it asks for
a Unicode property that there is none of.  Where Unicode is switched off, a class is a set of
bytes and a property cannot be asked for.
-/

namespace EntryForm.Pattern

/-- The flags that what an expression means depends on. -/
structure Mode where
  unicode : Bool := true
  anyCase : Bool := false
  manyLines : Bool := false
  dotAll : Bool := false
  carriageReturn : Bool := false
  lazily : Bool := false
  deriving DecidableEq, Repr

/-- The mode after flags. -/
def Mode.apply (m : Mode) (items : List FlagItem) : Mode where
  unicode := (Flag.unicode.setBy? items false).getD m.unicode
  anyCase := (Flag.anyCase.setBy? items false).getD m.anyCase
  manyLines := (Flag.manyLines.setBy? items false).getD m.manyLines
  dotAll := (Flag.dotAll.setBy? items false).getD m.dotAll
  carriageReturn := (Flag.carriageReturn.setBy? items false).getD m.carriageReturn
  lazily := (Flag.lazily.setBy? items false).getD m.lazily

/-- The greatest code point, or the greatest byte. -/
def Mode.top (m : Mode) : Nat := if m.unicode then 0x10FFFF else 0xFF

/-- A fault at a span. -/
def refuse {α : Type} (kind : Fault.Kind) (span : Span) : Except Fault α := .error { kind, span }

/-! ### Classes -/

/-- The members of a class: ranges, and the sizes of the properties in it and of their
complements. -/
structure Members where
  ranges : Ranges := []
  properties : Option (Size × Size) := none
  deriving DecidableEq, Repr

namespace Members

/-- Ranges alone. -/
def ofRanges (r : Ranges) : Members := { ranges := r }

/-- A property or its complement. -/
def ofSizes (sizes : Size × Size) (negated : Bool) : Members :=
  { properties := some (if negated then sizes.swap else sizes) }

/-- The members of both. -/
def union (a b : Members) : Members where
  ranges := a.ranges.union b.ranges
  properties :=
    match a.properties, b.properties with
    | some s, some t => some (s.1.plus t.1, s.2.plus t.2)
    | some s, none | none, some s => some s
    | none, none => none

/-- What the operator leaves.  With properties the size of either is taken. -/
def join (top : Nat) (op : Operator) (a b : Members) : Members :=
  if a.properties.isSome || b.properties.isSome then a.union b
  else
    match op with
    | .intersection => ofRanges (a.ranges.inter top b.ranges)
    | .difference => ofRanges (a.ranges.diff top b.ranges)
    | .symmetricDifference => ofRanges (a.ranges.symmDiff top b.ranges)

/-- The letters in the other case as well, if case does not count. -/
def fold (m : Mode) (a : Members) : Members :=
  if !m.anyCase then a
  else { a with ranges := if m.unicode then a.ranges.foldChars else a.ranges.foldAscii }

/-- All other members. -/
def negate (top : Nat) (a : Members) : Members :=
  match a.properties with
  | some sizes => { properties := some sizes.swap }
  | none => ofRanges (Ranges.dropSurrogates (a.ranges.complement top))

/-- The members of a class that may be negated: folded, then negated.  Without Unicode, no byte
beyond 127 may be among them. -/
def close (m : Mode) (span : Span) (negated : Bool) (a : Members) : Except Fault Members :=
  let a := a.fold m
  let a := if negated then a.negate m.top else a
  if !m.unicode && a.ranges.any fun p => 127 < p.2 then refuse .notUtf8 span else .ok a

end Members

/-- The code point of a character in a class; without Unicode it has to be one of ASCII. -/
def Literal.member (m : Mode) (l : Literal) : Except Fault Nat :=
  if m.unicode || l.char.toNat < 128 then .ok l.char.toNat
  else refuse (if l.byte then .notUtf8 else .noUnicode) l.span

/-- The bytes of a shorthand class without Unicode. -/
def Shorthand.bytes : Shorthand → Ranges
  | digit => Named.ranges .digit
  | space => Named.ranges .space
  | word => Named.ranges .word

/-- A shorthand class, which without Unicode has bytes below 128 only. -/
def Shorthand.members (m : Mode) (span : Span) (kind : Shorthand) (negated : Bool) :
    Except Fault Members :=
  if m.unicode then .ok (.ofSizes (Property.ofShorthand kind) negated)
  else if negated then refuse .notUtf8 span
  else .ok (.ofRanges kind.bytes)

/-- A Unicode property. -/
def Query.members (m : Mode) (span : Span) (query : Query) (negated : Bool) :
    Except Fault Members :=
  if !m.unicode then refuse .noUnicode span
  else
    match Property.find query with
    | .ok p => .ok (.ofSizes (p.size, p.complement) negated)
    | .error kind => refuse kind span

mutual

/-- The members of a class. -/
def ClassSet.members (m : Mode) : ClassSet → Except Fault Members
  | .empty _ => .ok {}
  | .literal l => do
      let c ← l.member m
      .ok (.ofRanges [(c, c)])
  | .range _ low high => do
      let a ← low.member m
      let b ← high.member m
      .ok (.ofRanges [(a, b)])
  | .named span name negated => (Members.ofRanges name.ranges).close m span negated
  | .shorthand span kind negated => kind.members m span negated
  | .property span query negated => query.members m span negated
  | .bracketed span negated inner => do
      let a ← inner.members m
      a.close m span negated
  | .union _ items => unionMembers m items
  | .joined _ op left right => do
      let a ← left.members m
      let b ← right.members m
      .ok ((a.fold m).join m.top op (b.fold m))

/-- The members of any of some classes. -/
def unionMembers (m : Mode) : List ClassSet → Except Fault Members
  | [] => .ok {}
  | item :: rest => do
      let a ← item.members m
      let b ← unionMembers m rest
      .ok (a.union b)

end

end EntryForm.Pattern
