import EntryForm.Violation

/-!
# Rules — widget identifiers

Widgets are identified across the whole form.  `repeatedWidgets` takes the identifiers with their
places and reports each one that occurs again: once, at its second place, in the order of the
first places.  Empty identifiers are left out, being reported where they stand.

The places are grouped by identifier while the occurrences are passed over (`Groups.add`); a table
of positions tells which group is that of an identifier.
-/

namespace EntryForm

/-- A widget identifier and where it stands. -/
structure Occurrence where
  id : String
  path : Path
  deriving DecidableEq, Repr

namespace Rules

/-- The identifiers met: each with its places, by first occurrence, and the position it has in this
order. -/
structure Groups where
  order : List (String × List Path) := []
  positions : List (String × Nat) := []

/-- Adds a place to the group of its identifier, which is opened at the end if it is new. -/
def Groups.add (g : Groups) (o : Occurrence) : Groups :=
  match g.positions.lookup o.id with
  | some i => { g with order := g.order.modify i fun group => (group.1, group.2 ++ [o.path]) }
  | none =>
      { order := g.order ++ [(o.id, [o.path])]
        positions := (o.id, g.order.length) :: g.positions }

/-- The groups of some occurrences. -/
def groups (os : List Occurrence) : Groups := os.foldl Groups.add {}

/-- The places of each identifier, by first occurrence. -/
def placesById (os : List Occurrence) : List (String × List Path) := (groups os).order

/-- The report on an identifier with these places. -/
def repetition? (id : String) (places : List Path) : Option Violation :=
  match places with
  | _ :: second :: _ => some ⟨second, .repeatedWidget id places⟩
  | _ => none

/-- The reports on identifiers that occur more than once. -/
def repeatedWidgets (os : List Occurrence) : List Violation :=
  (placesById (os.filter (!·.id.isEmpty))).filterMap fun g => repetition? g.1 g.2

end Rules

end EntryForm
