/-!
# Text — counts

A count is written with at least one decimal digit, after an optional plus, and is below `2 ^ 64`.
A text is read from the left, and the first character that cannot belong to a count decides what
is wrong with it.
-/

namespace EntryForm.Text.Count

/-- Why a text is no count. -/
inductive Fault where
  | nothing
  | notDigit
  | tooLarge
  deriving DecidableEq, Repr

/-- The wording of a fault. -/
def Fault.message : Fault → String
  | nothing => "cannot parse integer from empty string"
  | notDigit => "invalid digit found in string"
  | tooLarge => "number too large to fit in target type"

/-- Counts are below this number. -/
def bound : Nat := Nat.pow 2 64

/-- The number that the digits continue, `n` having been read. -/
def readDigits : Nat → List Char → Except Fault Nat
  | n, [] => .ok n
  | n, c :: rest =>
      if !c.isDigit then .error .notDigit
      else
        let next := 10 * n + (c.toNat - '0'.toNat)
        if next < bound then readDigits next rest else .error .tooLarge

/-- The count that a text writes. -/
def read (s : String) : Except Fault Nat :=
  match s.toList with
  | [] => .error .nothing
  | ['+'] => .error .notDigit
  | '+' :: digits => readDigits 0 digits
  | digits => readDigits 0 digits

end EntryForm.Text.Count
