import EntryForm.Yaml.Document
import EntryForm.Path
import EntryForm.Wire.Mismatch
import EntryForm.Text.Quoted
import EntryForm.Text.Record

/-!
# YAML — errors

Why a text cannot be read as a value of a shape: it is no YAML, or a value in it does not fit.  A
mismatch is placed once, at the innermost value that is read as a whole: with the path of that
value and the mark of its event.
-/

namespace EntryForm.Yaml

/-! ### Problems in full -/

/-- A mark in full. -/
def Mark.detail (m : Mark) : String :=
  Text.record "Mark"
    (if m.isStart then [("index", toString m.index)]
    else [("line", toString (m.line + 1)), ("column", toString (m.column + 1))])

/-- The name of a stage, when a problem is shown in full. -/
def Problem.Stage.name : Problem.Stage → String
  | characters => "READER"
  | tokens => "SCANNER"
  | grammar => "PARSER"

/-- A problem in full; a mark at the start of the text is left out. -/
def Problem.detail (p : Problem) : String :=
  let place :=
    if !p.mark.isStart then [("problem_mark", p.mark.detail)]
    else if p.offset ≠ 0 then [("problem_offset", toString p.offset)]
    else []
  let context :=
    match p.context with
    | none => []
    | some (text, mark) =>
        ("context", Text.quotedStrictly text) ::
          if mark.isStart then [] else [("context_mark", mark.detail)]
  Text.record "Error"
    ([("kind", p.stage.name), ("problem", Text.quotedStrictly p.text)] ++ place ++ context)

/-! ### Errors -/

/-- Why a text cannot be read. -/
inductive Error where
  | broken (cause : Broken.Cause)
  /-- The document ends where a value is expected. -/
  | endOfDocument
  | tooDeep (mark : Mark)
  /-- Aliases repeat more than a text of this size may. -/
  | tooManyRepeats
  | manyDocuments
  | mismatch (m : Wire.Mismatch) (place : Option (Path × Mark))

namespace Error

/-- The error, placed unless it is. -/
def placed (path : Path) (mark : Mark) : Error → Error
  | mismatch m none => mismatch m (some (path, mark))
  | e => e

/-- What is wrong and at which path, without the mark. -/
def text : Error → String
  | broken (.problem p) => p.message
  | broken (.unknownAnchor _) => "unknown anchor"
  | endOfDocument => "EOF while parsing a value"
  | tooDeep _ => "recursion limit exceeded"
  | tooManyRepeats => "repetition limit exceeded"
  | manyDocuments =>
      "deserializing from YAML containing more than one document is not supported"
  | mismatch m none => m.message .yaml
  | mismatch m (some (path, _)) =>
      if path.steps.isEmpty then m.message .yaml else path.render ++ ": " ++ m.message .yaml

/-- Where the error is, if its text does not say so itself. -/
def mark? : Error → Option Mark
  | broken (.unknownAnchor mark) => some mark
  | tooDeep mark => some mark
  | mismatch _ (some (_, mark)) => some mark
  | _ => none

/-- What is wrong and where; the start of a text is not told. -/
def message (e : Error) : String :=
  match e.mark? with
  | none => e.text
  | some mark => if mark.isStart then e.text else e.text ++ " at " ++ mark.describe

/-- The error in full. -/
def detail (e : Error) : String :=
  match e with
  | broken (.problem p) => p.detail
  | _ =>
      Text.applied "Error"
        (Text.quoted e.text ::
          match e.mark? with
          | none => []
          | some mark =>
              ["line: " ++ toString (mark.line + 1), "column: " ++ toString (mark.column + 1)])

end Error

end EntryForm.Yaml
