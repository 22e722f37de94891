import EntryForm.Violation
import EntryForm.Payload
import EntryForm.Text.Blank
import EntryForm.Text.Identifier
import EntryForm.Text.Clock

/-!
# Rules — single values

The checks of one value.  Each is given the place of the value and lists what is wrong with it:
nothing, or one violation.
-/

namespace EntryForm.Rules

/-- One violation if the condition holds. -/
def reportIf (defect : Bool) (p : Path) (cause : Cause) : List Violation :=
  if defect then [⟨p, cause⟩] else []

/-- The text has a character that is not blank. -/
def notBlank (what : String) (value : String) (p : Path) : List Violation :=
  reportIf (Text.isBlank value) p (.empty what)

/-- The text is an identifier. -/
def identifier (what : String) (value : String) (p : Path) : List Violation :=
  if value.isEmpty then [⟨p, .empty what⟩]
  else reportIf (!Text.isIdentifier value) p (.malformedIdentifier what value)

/-- The text is one of those allowed. -/
def oneOf (what : String) (allowed : List String) (value : String) (p : Path) : List Violation :=
  reportIf (!allowed.contains value) p (.notAmong what value allowed)

/-- The number lies between two others, ends included. -/
def between (low high : Int) (value : Count) (p : Path) : List Violation :=
  reportIf (!(low ≤ value.toInt && value.toInt ≤ high)) p (.notBetween value.toInt low high)

/-- The number is absent or not negative. -/
def isCount : Option Count → Bool
  | none => true
  | some n => 0 ≤ n.toInt

/-- A number that is present is not negative. -/
def notNegative (value : Option Count) (p : Path) : List Violation :=
  match value with
  | none => []
  | some n => reportIf (n.toInt < 0) p (.negative n.toInt)

/-- The number is absent or positive. -/
def isPositive : Option Count → Bool
  | none => true
  | some n => 1 ≤ n.toInt

/-- A bound that is present is positive. -/
def positive (name : String) (value : Option Count) (p : Path) : List Violation :=
  match value with
  | none => []
  | some n => reportIf (n.toInt < 1) p (.belowOne name n.toInt)

/-- Two bounds that are both present are in order; the violation is at the upper one. -/
def ordered (upper : String) (high : Option Count) (lower : String) (low : Option Count)
    (p : Path) : List Violation :=
  match low, high with
  | some l, some h =>
      reportIf (h.toInt < l.toInt) p
        (.crossedBounds upper (toString h.toInt) lower (toString l.toInt))
  | _, _ => []

/-- A text that is present has at most `limit` characters. -/
def atMostChars (limit : Nat) (value : Option String) (p : Path) : List Violation :=
  match value with
  | none => []
  | some s => reportIf (limit < s.length) p (.tooLong limit)

/-- A text is absent or has the form asked for. -/
def absentOr (wellFormed : String → Bool) : Option String → Bool
  | none => true
  | some s => wellFormed s

/-- A text that is present is a time of day. -/
def timeOfDay (wellFormed : String → Bool) (expected : String) (value : Option String)
    (p : Path) : List Violation :=
  match value with
  | none => []
  | some s => reportIf (!wellFormed s) p (.malformedTime s expected)

end EntryForm.Rules
