import EntryForm.Command.Run

/-!
# The program

`main` looks up what the command may ask of files and of the environment, runs the command, and
does what its reply says.
-/

namespace EntryForm.Program

/-- The fault with a number, which may come negated. -/
def faultOfNumber (number : UInt32) (words : String) : Files.Fault :=
  let n := if number < 0x80000000 then number else 0 - number
  .ofNumber n.toNat words

/-- The fault that stands for a failure of the file system. -/
def faultOf : IO.Error → Files.Fault
  | .noFileOrDirectory .. => .notFound
  | .permissionDenied .. => .denied
  | .alreadyExists .. => .taken
  | .inappropriateType _ number words | .invalidArgument _ number words =>
      faultOfNumber number words
  | .otherError number words | .resourceExhausted _ number words => faultOfNumber number words
  | e => .other 0 (toString e)

/-- What an action gives, or the fault it fails with. -/
def attempt {α : Type} (action : IO α) : IO (Except Files.Fault α) := do
  match ← action.toBaseIO with
  | .ok x => return .ok x
  | .error e => return .error (faultOf e)

/-- The tree of a folder, links not followed. -/
partial def treeOf (entry : IO.FS.DirEntry) : IO (Files.Tree Unit) := do
  let below := fun (e : IO.FS.DirEntry) => return (e.fileName, ← treeOf e)
  match (← entry.path.symlinkMetadata).type with
  | .dir => return .folder (← (← entry.path.readDir).toList.mapM below)
  | .symlink => return .link ""
  | .file => return .file ()
  | .other => return .link ""

/-- The tree of the folder at a place, links followed; nothing if no folder is there. -/
def folderAt (place : String) : IO (Option (Files.Tree Unit)) := do
  match ← attempt (IO.FS.realPath place) with
  | .error _ => return none
  | .ok real =>
      if ← real.isDir then
        let entries ← (← real.readDir).toList.mapM fun e => return (e.fileName, ← treeOf e)
        return some (.folder entries)
      else return none

/-- Makes a folder unless one is there. -/
def ensureFolder (place : String) : IO (Except Files.Fault Unit) := do
  match ← attempt (IO.FS.createDir place) with
  | .ok _ => return .ok ()
  | .error f =>
      match ← attempt (IO.FS.realPath place) with
      | .ok real => return if ← real.isDir then .ok () else .error f
      | .error _ => return .error f

/-- Makes a folder, and first those above it that are not there; the parts are in reverse. -/
def makeFolders : List Files.Part → IO (Except Files.Fault Unit)
  | [] => return .ok ()
  | part :: above => do
      let place := Files.placeOf (part :: above).reverse
      match ← ensureFolder place with
      | .error .notFound =>
          match ← makeFolders above with
          | .ok _ => ensureFolder place
          | .error f => return .error f
      | outcome => return outcome

/-- Writes a text to a file, and first makes the folder it stands in. -/
def save (place text : String) : IO (Except Files.Fault Unit) := do
  match ← makeFolders (Files.parts place).dropLast.reverse with
  | .ok _ => attempt (IO.FS.writeFile place text)
  | .error f => return .error f

/-- The places that a request tells to scan. -/
def scanned : Request → List String
  | .run _ (.validate v) => v.places
  | _ => []

/-- The documents that a request tells to read, given the trees of what it scans. -/
def documents (folder? : String → Option (Files.Tree Unit)) : Request → List String
  | .run _ (.validate v) =>
      match Run.documents folder? v with
      | .ok places => places
      | .error _ => []
  | .run _ (.convert c) => [c.source]
  | _ => []

/-- The names that commands look up in the environment. -/
def names : List String := [Settings.depthName, Settings.lenientName, Run.filterName]

/-- What a list says of a key, if it says something. -/
def lookIn {α : Type} (table : List (String × Option α)) (key : String) : Option α :=
  (table.lookup key).join

/-- Runs the program: prints what the reply says, writes its text, and gives the exit code. -/
def run (arguments : List String) : IO UInt32 := do
  let request := Request.read arguments
  let environment := lookIn (← names.mapM fun name => return (name, ← IO.getEnv name))
  let folder? := lookIn (← (scanned request).mapM fun place => return (place, ← folderAt place))
  let readable := (documents folder? request).filter fun place => (Format.ofPlace? place).isSome
  let contents ← readable.mapM fun (place : String) =>
    return (place, ← attempt (IO.FS.readBinFile place))
  let content := fun place => (contents.lookup place).getD (.error .notFound)
  let reply := Run.answer ⟨folder?, content⟩ environment request
  for line in (Run.filter environment request).lines reply.log do
    IO.eprintln line
  let reply ← match reply.save with
    | none => pure reply
    | some (place, text) => reply.saved place <$> save place text
  IO.print reply.out
  IO.eprint reply.err
  return reply.code.toUInt32

end EntryForm.Program

/-- Runs the program with the arguments of the command line. -/
def main (arguments : List String) : IO UInt32 := EntryForm.Program.run arguments
