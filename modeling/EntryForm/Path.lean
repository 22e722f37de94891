/-!
# Paths into a form

A path is the list of steps that lead from the root of a document to a value: into a named field,
or to an element of a list.  Its text is the dot and bracket form, `pages[0].sections[1].id`; a
field that comes first is written without a dot.
-/

namespace EntryForm

/-- One step down: into a field of a record, or to an element of a list. -/
inductive Step where
  | field (name : String)
  | index (position : Nat)
  deriving DecidableEq, Repr

/-- The steps from the root, in order. -/
structure Path where
  steps : List Step
  deriving DecidableEq, Repr

namespace Path

/-- The document itself. -/
def root : Path := ⟨[]⟩

/-- The field `name` of the record at `p`. -/
def field (p : Path) (name : String) : Path := ⟨p.steps ++ [.field name]⟩

/-- Element `i` of the list at `p`. -/
def index (p : Path) (i : Nat) : Path := ⟨p.steps ++ [.index i]⟩

/-- Element `i` of the list in the field `name` of the record at `p`. -/
def item (p : Path) (name : String) (i : Nat) : Path := (p.field name).index i

/-- The text of a path one step longer than the one whose text is given. -/
def extendText (text : String) : Step → String
  | .field name => if text.isEmpty then name else text ++ "." ++ name
  | .index i => text ++ "[" ++ toString i ++ "]"

/-- The dot and bracket form. -/
def render (p : Path) : String := p.steps.foldl extendText ""

@[simp] theorem render_root : root.render = "" := rfl

/-- A key puts its step behind the text of the path. -/
theorem render_field (p : Path) (name : String) :
    (p.field name).render = extendText p.render (.field name) := by
  simp [render, field]

/-- An index puts its step behind the text of the path. -/
theorem render_index (p : Path) (i : Nat) :
    (p.index i).render = extendText p.render (.index i) := by
  simp [render, index]

end Path

end EntryForm
