import EntryForm.Rules.Form
import EntryForm.Text.Blank
import EntryForm.Text.Count

/-!
# Commands — settings

How a run validates is decided by the arguments, then by the environment, then by the defaults.
An environment is a function from names to texts.
-/

namespace EntryForm.Settings

/-- The environment's name of the deepest level of nested items that is inspected. -/
def depthName : String := "FORM_DSL_MAX_NESTING_DEPTH"

/-- The environment's name of the mode in which payloads of other types are no defects. -/
def lenientName : String := "FORM_DSL_LENIENT_PAYLOADS"

/-- The text that the environment has for the depth is no count. -/
structure DepthFault where
  text : String
  fault : Text.Count.Fault
  deriving DecidableEq, Repr

/-- What is wrong with the depth. -/
def DepthFault.message (f : DepthFault) : String :=
  depthName ++ " must be a non-negative integer, got '" ++ f.text ++ "': " ++ f.fault.message

/-- The texts that ask for the lenient mode. -/
def affirmative : List String := ["1", "true", "yes", "on"]

/-- The text asks for the lenient mode; blanks around it and capitals do not matter. -/
def isAffirmative (text : String) : Bool :=
  affirmative.contains (Text.lowerAscii (Text.trim text))

/-- The deepest level of nested items that is inspected. -/
def ceiling (given : Option Nat) (environment : String → Option String) :
    Except DepthFault Nat :=
  match given with
  | some depth => .ok depth
  | none =>
      match environment depthName with
      | none => .ok ({} : Options).ceiling
      | some text => (Text.Count.read (Text.trim text)).mapError (⟨text, ·⟩)

/-- Whether payloads of other types are defects. -/
def exclusivity (given : Bool) (environment : String → Option String) : Exclusivity :=
  if given || (environment lenientName).any isAffirmative then .lenient else .strict

/-- How a run validates: with a depth and a mode that arguments may give, in an environment. -/
def resolve (depth : Option Nat) (lenient : Bool) (environment : String → Option String) :
    Except DepthFault Options := do
  .ok { ceiling := ← ceiling depth environment
        exclusivity := exclusivity lenient environment }

end EntryForm.Settings
