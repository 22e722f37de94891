import EntryForm.Json.Value
import EntryForm.Decimal.Style
import EntryForm.Text.Quoted

/-!
# Wire — mismatches

A mismatch says how a value fails to have the shape that was asked for.  Its wording is the same
for every format but for two things, held by a `Dialect`: the name of the null value, and how a
floating point number is written.
-/

namespace EntryForm.Wire

/-- A value found where it does not fit. -/
inductive Found where
  | unit
  | bool (value : Bool)
  | int (value : Int)
  /-- An integer beyond 64 bits, with the name of its type. -/
  | wide (value : Int) (type : String)
  | float (value : Float)
  | str (value : String)
  | seq
  | map
  | enum

/-- What kind of value a JSON value is. -/
def Found.ofJson : Json → Found
  | .null => .unit
  | .bool b => .bool b
  | .int n => .int n
  | .float x => .float x
  | .str s => .str s
  | .arr _ => .seq
  | .obj _ => .map

/-- How a value fails to have its shape. -/
inductive Mismatch where
  | invalidType (found : Found) (expected : String)
  | invalidValue (found : Found) (expected : String)
  | invalidLength (length : Nat) (expected : String)
  | unknownVariant (name : String) (allowed : List String)
  | missingField (name : String)
  | duplicateField (name : String)
  /-- A fault with a wording of its own. -/
  | other (text : String)

/-- The words a format has of its own. -/
structure Dialect where
  unit : String
  float : Decimal.Style

/-- The words used about JSON. -/
def Dialect.json : Dialect := ⟨"null", .json⟩

/-- The words used about YAML. -/
def Dialect.yaml : Dialect := ⟨"unit value", .mismatch⟩

/-- The words for a value found. -/
def Found.describe (d : Dialect) : Found → String
  | unit => d.unit
  | bool b => "boolean `" ++ toString b ++ "`"
  | int n => "integer `" ++ toString n ++ "`"
  | wide n type => "integer `" ++ toString n ++ "` as " ++ type
  | float x => "floating point `" ++ Decimal.write d.float x ++ "`"
  | str s => "string " ++ Text.quoted s
  | seq => "sequence"
  | map => "map"
  | enum => "enum"

/-- The names a value may have, as a sentence lists them. -/
def listNames (names : List String) : String :=
  let ticked := names.map fun n => "`" ++ n ++ "`"
  match ticked with
  | [a] => a
  | [a, b] => a ++ " or " ++ b
  | _ => "one of " ++ ", ".intercalate ticked

/-- The wording of a mismatch. -/
def Mismatch.message (d : Dialect) : Mismatch → String
  | invalidType found expected =>
      "invalid type: " ++ found.describe d ++ ", expected " ++ expected
  | invalidValue found expected =>
      "invalid value: " ++ found.describe d ++ ", expected " ++ expected
  | invalidLength length expected =>
      "invalid length " ++ toString length ++ ", expected " ++ expected
  | unknownVariant name allowed =>
      "unknown variant `" ++ name ++ "`, expected " ++ listNames allowed
  | missingField name => "missing field `" ++ name ++ "`"
  | duplicateField name => "duplicate field `" ++ name ++ "`"
  | other text => text

end EntryForm.Wire
