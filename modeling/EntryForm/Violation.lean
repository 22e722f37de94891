import EntryForm.Path
import EntryForm.Kind

/-!
# Violations

A violation is a defect of a form: where it is and what causes it.  The cause decides its kind,
and the kind its category; the wording of each cause is in `Cause.message`.

A `Finding` is a violation as it is written in a report: the text of the path, the kind and the
message.
-/

namespace EntryForm

/-- The broad classes of defects. -/
inductive Category where
  | structural | pattern | domain | crossReference | recursionLimit
  deriving DecidableEq, Repr

namespace Category

/-- Every category, in the order a report lists them. -/
def all : List Category := [.structural, .pattern, .domain, .crossReference, .recursionLimit]

/-- The name in a report. -/
def name : Category → String
  | structural => "structural"
  | pattern => "pattern"
  | domain => "domain"
  | crossReference => "cross_reference"
  | recursionLimit => "recursion_limit"

end Category

/-- The kinds of defects. -/
inductive Violation.Kind where
  /-- A required value is absent or blank. -/
  | missingField
  /-- A widget's type names no kind. -/
  | unknownWidgetType
  /-- A widget has a known type and no payload of that kind. -/
  | missingPayload
  /-- A widget has a payload of a kind that is not its type. -/
  | unexpectedPayload
  /-- A list that must have an element is empty. -/
  | emptyCollection
  /-- A text does not have the form it must have. -/
  | patternMismatch
  /-- A number or a length is outside its bounds. -/
  | outOfRange
  /-- A text is none of those allowed. -/
  | invalidOption
  /-- A name that must be unique is used again. -/
  | duplicateIdentifier
  /-- A checklist nests below the depth that is inspected. -/
  | nestingTooDeep
  deriving DecidableEq, Repr

namespace Violation.Kind

/-- Every kind of defect, in the order a report lists them. -/
def all : List Violation.Kind :=
  [.missingField, .unknownWidgetType, .missingPayload, .unexpectedPayload, .emptyCollection,
    .patternMismatch, .outOfRange, .invalidOption, .duplicateIdentifier, .nestingTooDeep]

/-- The name in a report. -/
def name : Violation.Kind → String
  | missingField => "missing_field"
  | unknownWidgetType => "unknown_widget_type"
  | missingPayload => "missing_payload"
  | unexpectedPayload => "unexpected_payload"
  | emptyCollection => "empty_collection"
  | patternMismatch => "pattern_mismatch"
  | outOfRange => "out_of_range"
  | invalidOption => "invalid_option"
  | duplicateIdentifier => "duplicate_identifier"
  | nestingTooDeep => "nesting_too_deep"

/-- The class a kind of defect belongs to. -/
def category : Violation.Kind → Category
  | missingField | unknownWidgetType | missingPayload | unexpectedPayload | emptyCollection =>
      .structural
  | patternMismatch => .pattern
  | outOfRange | invalidOption => .domain
  | duplicateIdentifier => .crossReference
  | nestingTooDeep => .recursionLimit

end Violation.Kind

/-- The lists that must have an element. -/
inductive Collection where
  | pages | selectOptions | columns | checklistItems | nestedItems | choices
  deriving DecidableEq, Repr

/-- What is asked of a list that must have an element. -/
def Collection.demand : Collection → String
  | pages => "form must contain at least one page"
  | selectOptions => "select fields must offer at least one option"
  | columns => "table must define at least one column"
  | checklistItems => "checklist must contain at least one item"
  | nestedItems => "hierarchical checklist must contain at least one item"
  | choices => "at least one option is required"

/-- Why something is a violation. -/
inductive Cause where
  /-- The value `what` is empty or blank. -/
  | empty (what : String)
  /-- `value`, given as `what`, is no identifier. -/
  | malformedIdentifier (what value : String)
  | malformedLocale (value : String)
  | emptyCollection (list : Collection)
  /-- The record `owner` lacks its list `list`. -/
  | undeclared (owner list : String)
  | absentPayload (kind : Kind)
  | unknownType (raw : String)
  /-- A payload of kind `kind` stands beside the type `discriminator`. -/
  | foreignPayload (kind : Kind) (discriminator : String)
  | notAmong (what value : String) (allowed : List String)
  | notBetween (value low high : Int)
  | negative (value : Int)
  /-- The bound `name` is less than one. -/
  | belowOne (name : String) (value : Int)
  /-- The upper bound is below the lower one; the bounds are given by name and as text. -/
  | crossedBounds (upper upperText lower lowerText : String)
  | tooLong (limit : Nat)
  /-- A regular expression that cannot be read; `detail` says why. -/
  | malformedPattern (detail : String)
  /-- `value` is no time of day of the form `expected`. -/
  | malformedTime (value expected : String)
  | crossedTimes (latest earliest : String)
  /-- A sibling before this one has the same value. -/
  | repeated (what value : String)
  /-- Widgets at the given places share an identifier. -/
  | repeatedWidget (id : String) (places : List Path)
  | notAnOption (value : String)
  | tooDeep (limit : Nat)
  deriving DecidableEq, Repr

namespace Cause

/-- The kind of defect a cause makes. -/
def kind : Cause → Violation.Kind
  | empty _ | undeclared .. => .missingField
  | malformedIdentifier .. | malformedLocale _ | malformedPattern _ | malformedTime .. =>
      .patternMismatch
  | emptyCollection _ => .emptyCollection
  | absentPayload _ => .missingPayload
  | unknownType _ => .unknownWidgetType
  | foreignPayload .. => .unexpectedPayload
  | notAmong .. | notAnOption _ => .invalidOption
  | notBetween .. | negative _ | belowOne .. | crossedBounds .. | tooLong _ | crossedTimes .. =>
      .outOfRange
  | repeated .. | repeatedWidget .. => .duplicateIdentifier
  | tooDeep _ => .nestingTooDeep

/-- The wording of a cause. -/
def message : Cause → String
  | empty what => what ++ " must not be empty"
  | malformedIdentifier what value => what ++ " '" ++ value ++ "' must match ^[a-z0-9_-]+$"
  | malformedLocale value => "locale '" ++ value ++ "' must look like 'en' or 'en-US'"
  | emptyCollection list => list.demand
  | undeclared owner list => owner ++ " must declare a " ++ list ++ " list"
  | absentPayload kind => "missing required payload for type '" ++ kind.name ++ "'"
  | unknownType raw => "unknown widget type '" ++ raw ++ "'"
  | foreignPayload kind discriminator =>
      "payload '" ++ kind.name ++ "' does not match widget type '" ++ discriminator ++ "'"
  | notAmong what value allowed =>
      what ++ " '" ++ value ++ "' must be one of: " ++ ", ".intercalate allowed
  | notBetween value low high =>
      "value " ++ toString value ++ " must be between " ++ toString low ++ " and " ++ toString high
  | negative value => "value " ++ toString value ++ " must not be negative"
  | belowOne name value => name ++ " must be at least 1, got " ++ toString value
  | crossedBounds upper upperText lower lowerText =>
      upper ++ " (" ++ upperText ++ ") must not be less than " ++ lower ++ " (" ++ lowerText ++ ")"
  | tooLong limit => "must be at most " ++ toString limit ++ " characters"
  | malformedPattern detail => "pattern is not a valid regular expression: " ++ detail
  | malformedTime value expected =>
      "time '" ++ value ++ "' must be a 24-hour " ++ expected ++ " value"
  | crossedTimes latest earliest =>
      "max_time (" ++ latest ++ ") is earlier than min_time (" ++ earliest ++ ")"
  | repeated what value => what ++ " '" ++ value ++ "' is used more than once"
  | repeatedWidget id places =>
      "widget id '" ++ id ++ "' is declared " ++ toString places.length ++ " times (" ++
        ", ".intercalate (places.map Path.render) ++ ")"
  | notAnOption value => "default value '" ++ value ++ "' is not one of the options"
  | tooDeep limit => "checklist items nest deeper than " ++ toString limit ++ " levels"

end Cause

/-- A defect of a form. -/
structure Violation where
  path : Path
  cause : Cause
  deriving DecidableEq, Repr

/-- The kind of defect. -/
def Violation.kind (v : Violation) : Violation.Kind := v.cause.kind

/-- A violation as a report writes it. -/
structure Finding where
  path : String
  kind : Violation.Kind
  message : String
  deriving DecidableEq, Repr

namespace Finding

/-- The class the finding belongs to. -/
def category (f : Finding) : Category := f.kind.category

/-- The line that shows a finding to a reader: path, message, and the kind in brackets. -/
def line (f : Finding) : String := f.path ++ ": " ++ f.message ++ " [" ++ f.kind.name ++ "]"

end Finding

/-- What a report writes of a violation. -/
def Violation.finding (v : Violation) : Finding := ⟨v.path.render, v.kind, v.cause.message⟩

/-- The outcome of a validation run. -/
structure Report where
  valid : Bool
  findings : List Finding
  deriving DecidableEq, Repr

end EntryForm
