import EntryForm.Text.Pieces

/-!
# Files — names

The text of a file's place is a sequence of names between slashes.  Empty names and single dots
say nothing and are passed over, but for a dot at the very start.
-/

namespace EntryForm.Files

/-- A part of the text of a place. -/
inductive Part where
  /-- The slash at the start. -/
  | top
  /-- The dot at the start. -/
  | here
  | up
  | name (text : String)
  deriving DecidableEq, Repr

/-- The part of a text between slashes, if it says anything. -/
def partOf? (piece : List Char) : Option Part :=
  match piece with
  | [] | ['.'] => none
  | ['.', '.'] => some .up
  | _ => some (.name (String.ofList piece))

/-- The parts of a place. -/
def parts (place : String) : List Part :=
  let pieces := Text.pieces '/' place.toList
  let start : List Part :=
    match place.toList with
    | '/' :: _ => [.top]
    | ['.'] | '.' :: '/' :: _ => [.here]
    | _ => []
  start ++ pieces.filterMap partOf?

/-- A part as it stands between slashes. -/
def Part.text : Part → String
  | top => ""
  | here => "."
  | up => ".."
  | name text => text

/-- A place with these parts. -/
def placeOf (ps : List Part) : String :=
  match ps with
  | [.top] => "/"
  | _ => "/".intercalate (ps.map Part.text)

/-- The text ends in a slash. -/
def endsInSlash (place : String) : Bool := place.toList.getLast? == some '/'

/-- The parts of a place as a search follows them: where a slash or a single dot ends it, what
was reached must be a folder. -/
def steps (place : String) : List Part :=
  match (Text.pieces '/' place.toList).getLast? with
  | some [] | some ['.'] => parts place ++ [.here]
  | _ => parts place

/-- The place of a name in the folder at a place. -/
def join (place name : String) : String :=
  if place.isEmpty || endsInSlash place then place ++ name else place ++ "/" ++ name

/-- The name that ends a place, if it ends in a name. -/
def fileName? (place : String) : Option String :=
  match (parts place).getLast? with
  | some (.name text) => some text
  | _ => none

/-- What follows the last dot of the name that ends a place.  A dot that begins the name does not
count. -/
def extension? (place : String) : Option String :=
  match fileName? place with
  | none => none
  | some text =>
      let back := text.toList.reverse
      match back.dropWhile (· ≠ '.') with
      | [] | [_] => none
      | _ => some (String.ofList (back.takeWhile (· ≠ '.')).reverse)

end EntryForm.Files
