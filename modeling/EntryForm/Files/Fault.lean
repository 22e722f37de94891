import EntryForm.Text.Quoted
import EntryForm.Text.Record

/-!
# Files — faults

Why a file or a folder cannot be reached, read or written.  Faults of the file system have a
number; text that is not UTF-8 is a fault of its own.
-/

namespace EntryForm.Files

/-- Why a file or a folder cannot be used. -/
inductive Fault where
  /-- Nothing has that name. -/
  | notFound
  | denied
  /-- Something has that name already. -/
  | taken
  | notFolder
  | isFolder
  | nameTooLong
  /-- Links lead from one to the next without end. -/
  | tooManyLinks
  /-- The content is not UTF-8. -/
  | notText
  | other (number : Nat) (wording : String)
  deriving DecidableEq, Repr

namespace Fault

/-- What is wrong, in words. -/
def wording : Fault → String
  | notFound => "No such file or directory"
  | denied => "Permission denied"
  | taken => "File exists"
  | notFolder => "Not a directory"
  | isFolder => "Is a directory"
  | nameTooLong => "File name too long"
  | tooManyLinks => "Too many levels of symbolic links"
  | notText => "stream did not contain valid UTF-8"
  | other _ words => words

/-- The number that the file system gives a fault. -/
def number? : Fault → Option Nat
  | notFound => some 2
  | denied => some 13
  | taken => some 17
  | notFolder => some 20
  | isFolder => some 21
  | nameTooLong => some 36
  | tooManyLinks => some 40
  | notText => none
  | other n _ => some n

/-- The fault with a number of the file system. -/
def ofNumber (n : Nat) (words : String) : Fault :=
  let known := [notFound, denied, taken, notFolder, isFolder, nameTooLong, tooManyLinks]
  (known.find? (·.number? == some n)).getD (other n words)

/-- The kind of a fault, when it is shown in full. -/
def kindName : Fault → String
  | notFound => "NotFound"
  | denied => "PermissionDenied"
  | taken => "AlreadyExists"
  | notFolder => "NotADirectory"
  | isFolder => "IsADirectory"
  | nameTooLong => "InvalidFilename"
  | tooManyLinks => "FilesystemLoop"
  | notText => "InvalidData"
  | other .. => "Uncategorized"

/-- What is wrong, with its number. -/
def message (f : Fault) : String :=
  match f.number? with
  | none => f.wording
  | some n => f.wording ++ " (os error " ++ toString n ++ ")"

/-- The fault in full. -/
def detail (f : Fault) : String :=
  match f.number? with
  | none => Text.record "Error" [("kind", f.kindName), ("message", Text.quoted f.wording)]
  | some n =>
      Text.record "Os"
        [("code", toString n), ("kind", f.kindName), ("message", Text.quoted f.wording)]

end Fault

end EntryForm.Files
