import EntryForm.Rules.Siblings
import EntryForm.Rules.Payload

/-!
# Rules — nested checklists

A nested checklist is inspected to a given depth, top-level items being at depth one.  A list of
items below that depth is reported once, at the list, and not looked into.  The keys of all the
items inspected, at whatever level, have to differ; the walk carries those it has met.
-/

namespace EntryForm

open Rules

/-- The reports of a walk over nested items, with the keys it has met. -/
structure KeyWalk where
  violations : List Violation
  keys : List String

/-- The checks of one item that do not concern the items below it. -/
def NestedItem.ownViolations (p : Path) (again : Bool) (item : NestedItem) : List Violation :=
  localIdentifier "item key" item.key again (p.field "key") ++
  notBlank "item label" item.label (p.field "label") ++
  oneOf "item type" NestedItem.types item.itemType (p.field "type")

mutual

/-- Walks an item at depth `depth` and the items below it. -/
def NestedItem.walk (ceiling depth : Nat) (p : Path) (keys : List String) : NestedItem → KeyWalk
  | .mk key label itemType required children =>
      let own := NestedItem.ownViolations p (keys.contains key)
        (.mk key label itemType required children)
      let below := p.field "children"
      if children.isEmpty then ⟨own, key :: keys⟩
      else if ceiling < depth + 1 then
        ⟨own ++ [⟨below, .tooDeep ceiling⟩], key :: keys⟩
      else
        let w := NestedItem.walkList ceiling (depth + 1) below 0 (key :: keys) children
        ⟨own ++ w.violations, w.keys⟩

/-- Walks the items of a list from position `i` on, all at depth `depth`. -/
def NestedItem.walkList (ceiling depth : Nat) (p : Path) (i : Nat) (keys : List String) :
    List NestedItem → KeyWalk
  | [] => ⟨[], keys⟩
  | item :: rest =>
      let first := NestedItem.walk ceiling depth (p.index i) keys item
      let others := NestedItem.walkList ceiling depth p (i + 1) first.keys rest
      ⟨first.violations ++ others.violations, others.keys⟩

end

/-- The reports on the top-level list, which may itself lie below the ceiling. -/
def NestedChecklist.itemViolations (ceiling : Nat) (p : Path) (items : List NestedItem) :
    List Violation :=
  if items.isEmpty then []
  else if ceiling < 1 then [⟨p, .tooDeep ceiling⟩]
  else (NestedItem.walkList ceiling 1 p 0 [] items).violations

def NestedChecklist.violations (ceiling : Nat) (p : Path) (c : NestedChecklist) :
    List Violation :=
  reportIf c.items.isEmpty (p.field "items") (.emptyCollection .nestedItems) ++
  oneOf "numbering style" NestedChecklist.numberingStyles c.numberingStyle
    (p.field "numbering_style") ++
  between 0 100 c.indentSize (p.field "indent_size") ++
  NestedChecklist.itemViolations ceiling (p.field "items") c.items

end EntryForm
