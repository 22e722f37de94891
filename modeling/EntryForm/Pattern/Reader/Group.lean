import EntryForm.Pattern.Cursor
import EntryForm.Text.Letters

/-!
# Patterns — reading the beginning of a group

A parenthesis opens a group that captures, with or without a name, or one that sets flags for what
is in it; or it only sets flags for the rest of the group around it.
-/

namespace EntryForm.Pattern

open Cursor

/-- The flag of a letter. -/
def Flag.ofChar? (c : Char) : Option Flag :=
  [('i', anyCase), ('m', manyLines), ('s', dotAll), ('U', lazily), ('u', unicode),
    ('R', carriageReturn), ('x', spaced)].lookup c

/-- Reads the flags up to a colon or a closing parenthesis.  The items `read` come with their
spans, the last one first. -/
def readFlags : Nat → List (FlagItem × Span) → Cursor → Except Fault (List FlagItem × Cursor)
  | 0, _, k => fail .flagEnd k.here
  | fuel + 1, read, k => do
      match k.rest with
      | [] => fail .flagEnd k.here
      | c :: _ =>
          if c = ':' || c = ')' then
            match read with
            | (.negation, span) :: _ => fail .flagDangling span
            | _ => .ok ((read.map (·.1)).reverse, k)
          else
            let (item, fault) ←
              if c = '-' then pure (FlagItem.negation, Fault.Kind.negationRepeated)
              else
                match Flag.ofChar? c with
                | some f => pure (FlagItem.flag f, Fault.Kind.flagRepeated)
                | none => fail .flagUnknown k.charSpan
            match read.find? (·.1 == item) with
            | some (_, span) =>
                .error { kind := fault, span := k.charSpan, other := some span }
            | none => readFlags fuel ((item, k.charSpan) :: read) k.next

/-- A character that may stand in the name of a group, there at the beginning or later. -/
def isNameChar (first : Bool) (c : Char) : Bool :=
  if first then c == '_' || Text.isLetter c
  else c == '_' || c == '.' || c == '[' || c == ']' || Text.isLetterOrNumber c

/-- The end of a group's name. -/
def readNameEnd : Nat → (first : Bool) → Cursor → Except Fault Cursor
  | 0, _, k => .ok k
  | fuel + 1, first, k =>
      match k.rest with
      | [] => .ok k
      | c :: _ =>
          if c = '>' then .ok k
          else if isNameChar first c then readNameEnd fuel false k.next
          else fail .nameInvalid k.charSpan

/-- Reads the name of a group, which must not be one of `names`. -/
def readName (names : List (String × Span)) (k : Cursor) :
    Except Fault ((String × Span) × Cursor) := do
  let stop ← readNameEnd k.rest.length true k
  if stop.atEnd then fail .nameEnd stop.here
  else
    let span := stop.since k.place
    let name := String.ofList (k.rest.take (stop.place.index - k.place.index))
    if name.isEmpty then fail .nameEmpty k.here
    else
      match names.lookup name with
      | some other => .error { kind := .nameRepeated, span, other := some other }
      | none => .ok ((name, span), stop.next)

/-- What a parenthesis begins. -/
inductive Beginning where
  /-- A group, with its name if it has one. -/
  | group (opening : Opening) (name : Option (String × Span))
  /-- Flags for the rest of the group around. -/
  | flags (items : List FlagItem)

/-- Reads the beginning of a group; the cursor stands at the parenthesis. -/
def readBeginning (names : List (String × Span)) (k : Cursor) :
    Except Fault (Beginning × Cursor) := do
  let paren := k.charSpan
  let inner := k.next.skipSpace
  let around := ["?=", "?!", "?<=", "?<!"].findSome? inner.take?
  match around, (inner.take? "?P<").or (inner.take? "?<"), inner.take? "?" with
  | some k, _, _ => fail .lookAround (k.since paren.start)
  | none, some k, _ =>
      let (name, k) ← readName names k
      .ok (.group .capture (some name), k)
  | none, none, some k =>
      if k.atEnd then fail .groupUnclosed paren
      else
        let (items, k) ← readFlags k.rest.length [] k
        if k.sees ')' then
          if items.isEmpty then fail .repeatsNothing inner.here else .ok (.flags items, k.next)
        else .ok (.group (.flags items) none, k.next)
  | none, none, none => .ok (.group .capture none, inner)

end EntryForm.Pattern
