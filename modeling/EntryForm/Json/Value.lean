/-!
# JSON values

A JSON value keeps the entries of an object in the order given, and integers apart from floating
point numbers.  `insertEntry` adds to entries that are sorted by key.
-/

namespace EntryForm

/-- A JSON value. -/
inductive Json where
  | null
  | bool (value : Bool)
  | int (value : Int)
  | float (value : Float)
  | str (value : String)
  | arr (items : List Json)
  | obj (entries : List (String × Json))
  deriving BEq, Inhabited

/-- Puts a value under a key into entries sorted by key; a value that was there is replaced. -/
def insertEntry {α : Type} (key : String) (value : α) : List (String × α) → List (String × α)
  | [] => [(key, value)]
  | (k, v) :: rest =>
      if key < k then (key, value) :: (k, v) :: rest
      else if key = k then (key, value) :: rest
      else (k, v) :: insertEntry key value rest

/-- The entries sorted by key, the last one of each key. -/
def sortEntries {α : Type} (entries : List (String × α)) : List (String × α) :=
  entries.foldl (fun sorted e => insertEntry e.1 e.2 sorted) []

namespace Json

/-- The value under a key of an object. -/
def get? (v : Json) (key : String) : Option Json :=
  match v with
  | obj entries => entries.lookup key
  | _ => none

end Json

end EntryForm
