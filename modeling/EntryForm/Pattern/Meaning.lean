import EntryForm.Pattern.Plan

/-!
# Patterns — what an expression means

An expression that is well formed is refused if it could match text that is not UTF-8, or if it
asks for a Unicode property that there is none of.  What is found for an expression that is
accepted is its `Plan`.
-/

namespace EntryForm.Pattern

/-- What a character comes to.  Without Unicode it must not be a byte beyond 127. -/
def Literal.plan (m : Mode) (l : Literal) : Except Fault Plan :=
  if !m.unicode && l.byte && 127 < l.char.toNat then refuse .notUtf8 l.span
  else .ok (.ofMembers m.unicode ((Members.ofRanges [(l.char.toNat, l.char.toNat)]).fold m))

/-- What a dot comes to: any character but those that end a line. -/
def dotPlan (m : Mode) (span : Span) : Except Fault Plan :=
  if !m.unicode then refuse .notUtf8 span
  else
    let ends : Ranges :=
      if m.dotAll then [] else if m.carriageReturn then [(10, 10), (13, 13)] else [(10, 10)]
    .ok (.members true (.ofRanges (ends.complement m.top)))

/-- What a place in the text comes to. -/
def Look.plan (m : Mode) : Look → Plan
  | text stop => .look (.text stop) false
  | line stop =>
      if m.manyLines then .look (.line stop) m.carriageReturn else .look (.text stop) false
  | word edge => .look (.word edge) m.unicode

mutual

/-- What an expression comes to, and the mode after it. -/
def Node.plan (m : Mode) : Node → Except Fault (Plan × Mode)
  | .empty _ => .ok (.nothing, m)
  | .flags _ items => .ok (.nothing, m.apply items)
  | .literal l => do .ok (← l.plan m, m)
  | .dot span => do .ok (← dotPlan m span, m)
  | .assertion _ look => .ok (look.plan m, m)
  | .shorthand span kind negated => do
      .ok (.ofMembers m.unicode (← kind.members m span negated), m)
  | .property span query negated => do
      .ok (.ofMembers m.unicode (← query.members m span negated), m)
  | .bracketed span negated inner => do
      let a ← inner.members m
      .ok (.ofMembers m.unicode (← a.close m span negated), m)
  | .repetition _ least most lazily inner => do
      let (e, m') ← inner.plan m
      .ok (e.repetition least most (lazily != m'.lazily), m')
  | .group _ .capture inner => do
      let (e, _) ← inner.plan m
      .ok (.captured e, m)
  | .group _ (.flags items) inner => do
      let (e, _) ← inner.plan (m.apply items)
      .ok (e, m)
  | .alternation _ branches => do
      let (es, m) ← plans m branches
      .ok (.alternatives es, m)
  | .concat _ parts => do
      let (es, m) ← plans m parts
      .ok (.inRow es, m)

/-- What some expressions come to, one after the other. -/
def plans (m : Mode) : List Node → Except Fault (List Plan × Mode)
  | [] => .ok ([], m)
  | n :: rest => do
      let (e, m) ← n.plan m
      let (es, m) ← plans m rest
      .ok (e :: es, m)

end

end EntryForm.Pattern
