import EntryForm.Rules.Value

/-!
# Rules — siblings

The elements of a list are checked in order, each with its position and with the knowledge whether
an element before it has the same key.
-/

namespace EntryForm.Rules

/-- The reports on the elements from position `i` on, where `seen` holds the keys before. -/
def siblingsFrom {α : Type} (key : α → String) (check : Nat → Bool → α → List Violation) :
    Nat → List String → List α → List Violation
  | _, _, [] => []
  | i, seen, x :: rest =>
      check i (seen.contains (key x)) x ++ siblingsFrom key check (i + 1) (key x :: seen) rest

/-- The reports on every element.  `check i again x` is given the position of `x`, and whether an
element before it has the key of `x`. -/
def siblings {α : Type} (key : α → String) (check : Nat → Bool → α → List Violation)
    (xs : List α) : List Violation :=
  siblingsFrom key check 0 [] xs

/-- A name among siblings: an identifier that none before it has.  A malformed name takes part in
the comparison, an empty one does not. -/
def localIdentifier (what : String) (value : String) (again : Bool) (p : Path) :
    List Violation :=
  identifier what value p ++
    reportIf (again && !value.isEmpty) p (.repeated what value)

/-- The repetition alone, of a name whose form is checked elsewhere. -/
def notRepeated (what : String) (value : String) (again : Bool) (p : Path) : List Violation :=
  reportIf (again && !value.isEmpty) p (.repeated what value)

end EntryForm.Rules
