import EntryForm.Yaml.Event.Grammar

/-!
# YAML — documents

The events of a text's document, with each alias resolved to the number of the event it repeats.
Anchors are numbered as they come; an anchor that is set again takes the number that the count of
anchor names gives, and an alias means the event last put under its number.
-/

namespace EntryForm.Yaml

/-- Why a text is no document of the kind asked for. -/
inductive Broken.Cause where
  | problem (p : Problem)
  /-- An alias without an anchor. -/
  | unknownAnchor (mark : Mark)

/-- An event of a document. -/
inductive Entry.Kind where
  | scalar (text : String) (style : Style)
  /-- Repeats the event under an anchor number. -/
  | alias (number : Nat)
  | sequenceStart
  | sequenceEnd
  | mappingStart
  | mappingEnd
  /-- There is no document at all. -/
  | void
  deriving DecidableEq, Repr

/-- An event of a document, with its tag. -/
structure Entry where
  kind : Entry.Kind
  mark : Mark
  tag : Option String := none
  deriving DecidableEq, Repr

/-- A document. -/
structure Document where
  entries : Array Entry
  /-- The event under each anchor number. -/
  anchors : List (Nat × Nat) := []
  /-- Why the events break off, if they do. -/
  fault : Option Broken.Cause := none
  /-- Another document follows. -/
  more : Bool := false

namespace Document

/-- Events gathered so far: the numbers of the names, and the events under the numbers. -/
structure Gathered where
  entries : Array Entry := #[]
  names : List (String × Nat) := []
  anchors : List (Nat × Nat) := []

/-- The number of a name that gets an anchor. -/
def Gathered.nameAnchor (g : Gathered) (anchor : Option String) : Gathered :=
  match anchor with
  | none => g
  | some name =>
      let number := g.names.length
      { g with
        names := (name, number) :: g.names.filter (·.1 != name)
        anchors := (number, g.entries.size) :: g.anchors.filter (·.1 != number) }

/-- Adds events; an alias that means nothing ends them. -/
def gather : List Event → Gathered → Gathered × Option Broken.Cause
  | [], g => (g, none)
  | e :: rest, g =>
      let add (g : Gathered) (kind : Entry.Kind) : Gathered :=
        { g with entries := g.entries.push { kind, mark := e.mark, tag := e.tag } }
      match e.kind with
      | .alias name =>
          match g.names.lookup name with
          | none => (g, some (.unknownAnchor e.mark))
          | some number => gather rest (add g (.alias number))
      | .scalar text style => gather rest (add (g.nameAnchor e.anchor) (.scalar text style))
      | .sequenceStart => gather rest (add (g.nameAnchor e.anchor) .sequenceStart)
      | .mappingStart => gather rest (add (g.nameAnchor e.anchor) .mappingStart)
      | .sequenceEnd => gather rest (add g .sequenceEnd)
      | .mappingEnd => gather rest (add g .mappingEnd)

/-- The document with these events. -/
def ofEvents (events : List Event) (problem : Option Problem) (more : Bool) : Document :=
  let (g, fault) := gather events {}
  { entries := g.entries, anchors := g.anchors, more,
    fault := fault.or (problem.map .problem) }

/-- The first document of a text. -/
def ofText (text : String) : Document :=
  let tokens := Tokens.ofText text
  let p : Parse := { tokens := tokens.released, problem := tokens.problem }
  match p.firstDocument (3 * tokens.released.length + 16) with
  | .error broken => ofEvents broken.events.reverse (some broken.problem) false
  | .ok (some mark, _) => { entries := #[{ kind := .void, mark }] }
  | .ok (none, p) => ofEvents p.events.reverse none p.hasMore

end Document

end EntryForm.Yaml
