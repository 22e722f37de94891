/-!
# Text — records

How values are shown in full when a command fails: a name with its named parts in braces, or with
its parts in parentheses.
-/

namespace EntryForm.Text

/-- A name with named parts in braces. -/
def record (name : String) (parts : List (String × String)) : String :=
  name ++ " \x7b " ++ ", ".intercalate (parts.map fun p => p.1 ++ ": " ++ p.2) ++ " \x7d"

/-- A name with parts in parentheses. -/
def applied (name : String) (parts : List String) : String :=
  name ++ "(" ++ ", ".intercalate parts ++ ")"

end EntryForm.Text
