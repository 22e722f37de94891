import EntryForm.Command
import EntryForm.Log.Validation
import EntryForm.Wire.Report

/-!
# Commands — batches

Documents are validated one by one, and the outcome for one does not depend on the others.
`Outcome.of` is the outcome for one document, written as lines or as a JSON value.
-/

namespace EntryForm.Batch

/-- The outcome for a document. -/
structure Outcome where
  place : String
  /-- Why there is no form, or the report on it. -/
  result : Except LoadError Report

namespace Outcome

/-- Validates the document at a place. -/
def of (content : String → Except Files.Fault ByteArray) (o : Options) (place : String) :
    Outcome :=
  ⟨place, (Form.load content place).map (Form.report o)⟩

/-- The document is a form without violations. -/
def isValid (r : Outcome) : Bool :=
  match r.result with
  | .ok report => report.valid
  | .error _ => false

/-- How many violations there are, in words. -/
def countText (n : Nat) : String := toString n ++ (if n = 1 then " violation" else " violations")

/-- The lines that tell the outcome. -/
def lines (r : Outcome) : List String :=
  match r.result with
  | .error e => [r.place ++ ": unreadable", "  " ++ e.message]
  | .ok report =>
      if report.valid then [r.place ++ ": valid"]
      else
        (r.place ++ ": invalid (" ++ countText report.findings.length ++ ")") ::
          report.findings.map fun f => "  " ++ f.line

/-- The outcome as a JSON value. -/
def toJson (r : Outcome) : Json :=
  let own := [("path", Json.str r.place), ("valid", .bool r.isValid)]
  .obj (match r.result with
    | .error e => own ++ [("error", .str e.message), ("violations", .arr [])]
    | .ok report => own ++ [("violations", .arr (report.findings.map Finding.toJson))])

end Outcome

/-- The text that shows outcomes in a layout. -/
def show_ (layout : Layout) (rs : List Outcome) : String :=
  match layout with
  | .text => String.join ((rs.flatMap Outcome.lines).map (· ++ "\n"))
  | .json => Json.pretty (.arr (rs.map Outcome.toJson)) ++ "\n"

/-! ### Events -/

/-- A document is read. -/
def documentRead (place : String) (format : Format) (bytes : Nat) : Log.Event :=
  { level := .debug
    source := "form_spec::document"
    message := "read form document"
    fields := [("path", place), ("format", format.title), ("bytes", toString bytes)] }

/-- The events of loading the document at a place and validating its form. -/
def events (content : String → Except Files.Fault ByteArray) (o : Options) (place : String) :
    List Log.Event :=
  match documentText content place with
  | .error _ => []
  | .ok (format, text) =>
      documentRead place format text.utf8ByteSize ::
        match Form.read format text with
        | .ok f => f.events o
        | .error _ => []

end EntryForm.Batch
