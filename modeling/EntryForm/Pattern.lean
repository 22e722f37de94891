import EntryForm.Pattern.Reader
import EntryForm.Pattern.Meaning

/-!
# Patterns

A pattern is a regular expression if it can be read, matches text only, and is not too large once
it is compiled.
-/

namespace EntryForm.Pattern

/-- What is wrong with a regular expression, if anything is. -/
def defect? (text : String) : Option String :=
  match Node.read text with
  | .error fault => some (fault.message text)
  | .ok n =>
      match n.plan {} with
      | .error fault => some (fault.message text)
      | .ok (e, _) =>
          if (e.size.plus Plan.frameSize).fits then none
          else some ("Compiled regex exceeds size limit of " ++ toString Size.limit ++ " bytes.")

end EntryForm.Pattern
