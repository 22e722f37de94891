import EntryForm.Yaml.Token

/-!
# YAML — events

A document as a flat list of events: scalars and aliases, and the starts and ends of sequences and
mappings.  Starts, like scalars, may have a tag and an anchor.
-/

namespace EntryForm.Yaml

/-- What an event is. -/
inductive Event.Kind where
  | scalar (text : String) (style : Style)
  | alias (name : String)
  | sequenceStart
  | sequenceEnd
  | mappingStart
  | mappingEnd
  deriving DecidableEq, Repr

/-- An event, where it begins, and its properties. -/
structure Event where
  kind : Event.Kind
  mark : Mark
  tag : Option String := none
  anchor : Option String := none
  deriving DecidableEq, Repr

/-- An empty scalar at a mark. -/
def Event.blank (mark : Mark) : Event := { kind := .scalar "" .plain, mark }

end EntryForm.Yaml
