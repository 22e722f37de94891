import EntryForm.Yaml.Cursor

/-!
# YAML — tokens

The tokens of a YAML text.  The beginnings and ends of block collections are not written but
follow from the indentation; they are tokens all the same.
-/

namespace EntryForm.Yaml

/-- How a scalar is written. -/
inductive Style where
  | plain | single | double | literal | folded
  deriving DecidableEq, Repr

/-- What a token is. -/
inductive Token.Kind where
  | streamStart | streamEnd
  | version (major minor : Nat)
  | tagDirective (handle lead : String)
  | documentStart | documentEnd
  | blockSequenceStart | blockMappingStart | blockEnd
  | flowSequenceStart | flowSequenceEnd | flowMappingStart | flowMappingEnd
  | blockEntry | flowEntry | key | value
  | alias (name : String)
  | anchor (name : String)
  | tag (handle suffix : String)
  | scalar (text : String) (style : Style)
  deriving DecidableEq, Repr

/-- A token and its extent. -/
structure Token where
  kind : Token.Kind
  start : Mark
  stop : Mark
  deriving DecidableEq, Repr

end EntryForm.Yaml
