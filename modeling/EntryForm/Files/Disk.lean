import EntryForm.Files.Fault
import EntryForm.Files.Name
import EntryForm.Files.Tree

/-!
# Files — disks

A disk is a tree of files and the folder that places are told from.  A search follows a place
part by part, and goes on from the target of each link it meets.  `View` is what a command can
ask of files; `Disk.view` answers from a disk.

Main definitions: `Disk.find` searches for a place, `Disk.write` writes a file, `Disk.makeFolders`
makes a folder with those above it, and `Disk.changes` lists the files that a run has changed.
-/

namespace EntryForm.Files

/-- What a command can ask of files. -/
structure View (α : Type) where
  /-- The tree of the folder at a place, links followed; nothing if no folder is there. -/
  folder? : String → Option (Tree α)
  /-- The content of the file at a place. -/
  content : String → Except Fault ByteArray

/-- A tree of files, and the names that lead from its top to the working folder. -/
structure Disk where
  top : Tree ByteArray
  working : List String := []

/-- Something a search has found: the names that lead to it from the top, and what it is. -/
structure Found where
  names : List String
  tree : Tree ByteArray

namespace Disk

/-- The number of links that a search follows. -/
def linkBudget : Nat := 40

/-- The number of bytes that a name may have. -/
def nameBound : Nat := 255

/-- The number of bytes that a place stays below. -/
def placeBound : Nat := 4096

/-! ### Searching -/

/-- What some names lead to. -/
def at? (d : Disk) (names : List String) : Option Found :=
  (d.top.get? names).map fun t => ⟨names, t⟩

/-- Follows parts from the folder that `names` lead to; `jump` goes on from the folder of a link,
through its target and the parts after it. -/
def followParts (d : Disk) (jump : List String → List Part → Except Fault Found) :
    List String → List Part → Except Fault Found
  | names, [] =>
      match d.at? names with
      | some found => .ok found
      | none => .error .notFound
  | names, part :: rest =>
      match d.at? names with
      | some ⟨_, .folder _⟩ =>
          match part with
          | .top => followParts d jump [] rest
          | .here => followParts d jump names rest
          | .up => followParts d jump names.dropLast rest
          | .name n =>
              if nameBound < n.utf8ByteSize then .error .nameTooLong
              else
                match d.top.get? (names ++ [n]) with
                | none => .error .notFound
                | some (.link target) => jump names (steps target ++ rest)
                | some _ => followParts d jump (names ++ [n]) rest
      | _ => .error .notFolder

/-- Follows parts from the folder that `names` lead to, through at most some links. -/
def follow (d : Disk) : Nat → List String → List Part → Except Fault Found
  | 0 => d.followParts fun _ _ => .error .tooManyLinks
  | links + 1 => d.followParts (d.follow links)

/-- Follows parts from a folder. -/
def findFrom (d : Disk) (names : List String) (ps : List Part) : Except Fault Found :=
  d.follow linkBudget names ps

/-- The length of a place is within bounds. -/
def checkLength (place : String) : Except Fault Unit :=
  if place.isEmpty then .error .notFound
  else if placeBound ≤ place.utf8ByteSize then .error .nameTooLong
  else .ok ()

/-- Searches for a place. -/
def find (d : Disk) (place : String) : Except Fault Found := do
  checkLength place
  d.findFrom d.working (steps place)

/-- A folder is at the place. -/
def isFolder (d : Disk) (place : String) : Bool :=
  match d.find place with
  | .ok ⟨_, .folder _⟩ => true
  | _ => false

/-- The answers of a disk. -/
def view (d : Disk) : View ByteArray where
  folder? place :=
    match d.find place with
    | .ok ⟨_, .folder entries⟩ => some (.folder entries)
    | _ => none
  content place :=
    match d.find place with
    | .ok ⟨_, .file content⟩ => .ok content
    | .ok _ => .error .isFolder
    | .error f => .error f

/-! ### Writing -/

/-- The disk with something new where some names lead. -/
def put (d : Disk) (names : List String) (new : Tree ByteArray) : Disk :=
  { d with top := Tree.put new names d.top }

/-- Writes a file at a place told from the folder that `names` lead to.  A link at the place is
followed, and the file is made where there is none. -/
def writeFrom (d : Disk) (content : ByteArray) : Nat → List String → String → Except Fault Disk
  | 0, _, _ => .error .tooManyLinks
  | links + 1, names, place =>
      let ps := if endsInSlash place then parts place else steps place
      match ps.getLast? with
      | some (.name n) => do
          let parent ← d.findFrom names ps.dropLast
          match parent.tree with
          | .folder _ =>
              if endsInSlash place then .error .isFolder
              else if nameBound < n.utf8ByteSize then .error .nameTooLong
              else
                match parent.tree.entry? n with
                | some (.folder _) => .error .isFolder
                | some (.link target) => d.writeFrom content links parent.names target
                | _ => .ok (d.put (parent.names ++ [n]) (.file content))
          | _ => .error .notFolder
      | _ => do
          let _ ← d.findFrom names ps
          .error .isFolder

/-- Writes a file. -/
def write (d : Disk) (place : String) (content : ByteArray) : Except Fault Disk := do
  checkLength place
  d.writeFrom content linkBudget d.working place

/-- Makes a folder where the parts lead; the folder that it is to stand in is there. -/
def makeFolder (d : Disk) (ps : List Part) : Except Fault Disk :=
  match ps.getLast? with
  | some (.name n) => do
      let parent ← d.findFrom d.working ps.dropLast
      match parent.tree with
      | .folder _ =>
          if nameBound < n.utf8ByteSize then .error .nameTooLong
          else if (parent.tree.entry? n).isSome then .error .taken
          else .ok (d.put (parent.names ++ [n]) (.folder []))
      | _ => .error .notFolder
  | _ => do
      let _ ← d.findFrom d.working ps
      .error .taken

/-- Makes a folder unless one is there. -/
def ensureFolder (d : Disk) (ps : List Part) : Except Fault Disk :=
  match d.makeFolder ps with
  | .ok d' => .ok d'
  | .error f =>
      match d.findFrom d.working ps with
      | .ok ⟨_, .folder _⟩ => .ok d
      | _ => .error f

/-- Makes a folder, and first those above it that are not there; the parts are in reverse. -/
def makeFoldersBack (d : Disk) : List Part → Except Fault Disk
  | [] => .ok d
  | part :: above =>
      match d.ensureFolder (part :: above).reverse with
      | .error .notFound => do (← d.makeFoldersBack above).ensureFolder (part :: above).reverse
      | outcome => outcome

/-- Makes a folder, and first those above it that are not there. -/
def makeFolders (d : Disk) (ps : List Part) : Except Fault Disk := d.makeFoldersBack ps.reverse

/-- Writes a file, and first makes the folder it stands in. -/
def save (d : Disk) (place : String) (content : ByteArray) : Except Fault Disk := do
  (← d.makeFolders (parts place).dropLast).write place content

/-! ### Changes -/

/-- The files below the working folder that are not as they were, with the names that lead to
them from there. -/
def changes (before after : Disk) : List (List String × ByteArray) :=
  match after.top.get? after.working with
  | none => []
  | some t =>
      t.files.filter fun (names, content) =>
        match before.top.get? (before.working ++ names) with
        | some (.file old) => old.data != content.data
        | _ => true

end Disk

end EntryForm.Files
