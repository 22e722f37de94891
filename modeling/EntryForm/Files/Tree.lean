/-!
# Files — trees

A tree is what stands under a name: a file, a symbolic link, or a folder with named trees in it.
`Tree.files` lists the files of a tree in the order of their names, folder by folder; a link is
not followed.
-/

namespace EntryForm.Files

/-- What stands under a name; `α` is what is known of a file. -/
inductive Tree (α : Type) where
  | file (content : α)
  | link (target : String)
  | folder (entries : List (String × Tree α))

namespace Tree

variable {α : Type}

/-! ### Files in order -/

/-- The entries in the order of their names. -/
def inOrder {β : Type} (entries : List (String × β)) : List (String × β) :=
  entries.mergeSort fun a b => decide (a.1 ≤ b.1)

/-- Puts a name in front of the names that lead to files. -/
def under (name : String) (files : List (List String × α)) : List (List String × α) :=
  files.map fun f => (name :: f.1, f.2)

mutual

/-- The files of a tree, each with the names that lead to it. -/
def files : Tree α → List (List String × α)
  | .file content => [([], content)]
  | .link _ => []
  | .folder entries => (inOrder (filesByName entries)).flatMap fun e => under e.1 e.2

/-- The files of each of some named trees. -/
def filesByName : List (String × Tree α) → List (String × List (List String × α))
  | [] => []
  | (name, t) :: rest => (name, t.files) :: filesByName rest

end

/-! ### Trees in a tree -/

/-- What stands under a name in the tree. -/
def entry? (t : Tree α) (name : String) : Option (Tree α) :=
  match t with
  | .folder entries => entries.lookup name
  | _ => none

/-- What some names lead to. -/
def get? : List String → Tree α → Option (Tree α)
  | [], t => some t
  | name :: rest, t => (t.entry? name).bind (get? rest)

/-- The entries with a tree under a name; what was there is replaced. -/
def setEntry (name : String) (new : Tree α) : List (String × Tree α) → List (String × Tree α)
  | [] => [(name, new)]
  | (k, t) :: rest => if k = name then (name, new) :: rest else (k, t) :: setEntry name new rest

/-- The tree with another tree where some names lead; all but the last are names of folders. -/
def put (new : Tree α) : List String → Tree α → Tree α
  | [], _ => new
  | name :: rest, t =>
      match t with
      | .folder entries =>
          .folder (setEntry name (put new rest ((t.entry? name).getD (.folder []))) entries)
      | _ => t

end Tree

end EntryForm.Files
