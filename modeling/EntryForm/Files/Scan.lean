import EntryForm.Files.Name
import EntryForm.Files.Tree

/-!
# Files — scans

A scan takes from a folder the files whose places below it are accepted, in the order of their
names.  `collect` scans each place that is a folder and keeps every other place as it is.
-/

namespace EntryForm.Files

variable {α : Type}

/-- The names of the files below a folder that are accepted by their place below it. -/
def accepted (accepts : String → Bool) (t : Tree α) : List (List String) :=
  (t.files.map Prod.fst).filter fun names => accepts ("/".intercalate names)

/-- The places of the accepted files below the folder at a place. -/
def scan (accepts : String → Bool) (place : String) (t : Tree α) : List String :=
  (accepted accepts t).map fun names => names.foldl join place

/-- The places that some places stand for: a folder for its accepted files. -/
def collect (accepts : String → Bool) (folder? : String → Option (Tree α))
    (places : List String) : List String :=
  places.flatMap fun place =>
    match folder? place with
    | some t => scan accepts place t
    | none => [place]

end EntryForm.Files
