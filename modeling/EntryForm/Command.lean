import EntryForm.Document

/-!
# Commands

The program validates documents, writes the schema of documents, or converts a document from one
format to the other.  A `Request` is what the arguments of a run ask for.
-/

namespace EntryForm

/-- How the outcome of validation is written. -/
inductive Layout where
  | text | json
  deriving DecidableEq, Repr

namespace Layout

/-- Every layout. -/
def all : List Layout := [.text, .json]

/-- The name in options. -/
def name : Layout → String
  | text => "text"
  | json => "json"

end Layout

namespace Command

/-- The pattern of the files that are taken from a folder, unless another is given. -/
def defaultPattern : String := "**/*.\x7bjson,yaml,yml\x7d"

/-- Validation of documents and of the documents in folders. -/
structure Validation where
  places : List String
  layout : Layout := .text
  /-- The deepest level of nested items that is inspected, where it is given. -/
  ceiling : Option Nat := none
  /-- Payloads that do not belong to a widget's type are no defects. -/
  lenient : Bool := false
  pattern : String := defaultPattern
  deriving DecidableEq, Repr

/-- Conversion of a document. -/
structure Conversion where
  source : String
  target : Format
  /-- Where the new document is written; it is printed if there is none. -/
  out : Option String := none
  deriving DecidableEq, Repr

end Command

/-- What the program can do. -/
inductive Command where
  | validate (v : Command.Validation)
  | schema (out : Option String)
  | convert (c : Command.Conversion)
  deriving DecidableEq, Repr

/-- What the arguments of a run ask for. -/
inductive Request where
  | version
  | help
  /-- The arguments make no sense. -/
  | misuse
  | run (verbose : Bool) (c : Command)
  deriving DecidableEq, Repr

end EntryForm
