import EntryForm.Json.Reader
import EntryForm.Json.Printer
import EntryForm.Yaml.Reader
import EntryForm.Yaml.Printer
import EntryForm.Wire.Encode
import EntryForm.Files.Name
import EntryForm.Files.Fault
import EntryForm.Text.Blank

/-!
# Documents

A form document is a JSON or a YAML text.  Its format follows from the extension of its file's
name, capitals counting as small letters.
-/

namespace EntryForm

/-- The formats of documents. -/
inductive Format where
  | json | yaml
  deriving DecidableEq, Repr

namespace Format

/-- Both formats. -/
def all : List Format := [.json, .yaml]

/-- The name in options and answers. -/
def name : Format → String
  | json => "json"
  | yaml => "yaml"

/-- The name in the log and in errors. -/
def title : Format → String
  | json => "Json"
  | yaml => "Yaml"

/-- The format that a file's extension stands for. -/
def ofExtension? (extension : String) : Option Format :=
  match Text.lowerAscii extension with
  | "json" => some .json
  | "yaml" | "yml" => some .yaml
  | _ => none

/-- The format of the file at a place. -/
def ofPlace? (place : String) : Option Format := (Files.extension? place).bind ofExtension?

end Format

/-- Why a text is no form document. -/
inductive ReadError where
  | json (e : Json.Error)
  | yaml (e : Yaml.Error)

namespace ReadError

/-- The format of the text. -/
def format : ReadError → Format
  | json _ => .json
  | yaml _ => .yaml

/-- What is wrong, with the format. -/
def message : ReadError → String
  | json e => "invalid JSON form document: " ++ e.message
  | yaml e => "invalid YAML form document: " ++ e.message

/-- The error in full. -/
def detail (e : ReadError) : String :=
  Text.applied e.format.title
    [match e with
      | json e => e.detail
      | yaml e => e.detail]

end ReadError

/-- Reads a form from the text of a document. -/
def Form.read (format : Format) (text : String) : Except ReadError Form :=
  match format with
  | .json => (Json.readAs (.record .form) text).mapError .json
  | .yaml => (Yaml.readAs (.record .form) text).mapError .yaml

/-- The text of a document that holds the form. -/
def Form.write (format : Format) (f : Form) : String :=
  match format with
  | .json => Json.pretty f.toJson
  | .yaml => Yaml.write f.toJson

/-! ### Documents in files -/

/-- Why the file at a place gives no form. -/
inductive LoadError where
  | unsupported (place : String)
  | unreadable (place : String) (f : Files.Fault)
  | invalid (e : ReadError)

namespace LoadError

/-- What is wrong. -/
def message : LoadError → String
  | unsupported place =>
      "unsupported document extension for " ++ place ++ "; expected .json, .yaml or .yml"
  | unreadable place f => "failed to read " ++ place ++ ": " ++ f.message
  | invalid e => e.message

/-- The error in full. -/
def detail : LoadError → String
  | unsupported place => Text.applied "UnsupportedExtension" [Text.quoted place]
  | unreadable place f =>
      Text.record "Io" [("path", Text.quoted place), ("source", f.detail)]
  | invalid e => e.detail

end LoadError

/-- The text of the document at a place, and its format. -/
def documentText (content : String → Except Files.Fault ByteArray) (place : String) :
    Except LoadError (Format × String) :=
  match Format.ofPlace? place with
  | none => .error (.unsupported place)
  | some format =>
      match content place with
      | .error f => .error (.unreadable place f)
      | .ok bytes =>
          match String.fromUTF8? bytes with
          | some text => .ok (format, text)
          | none => .error (.unreadable place .notText)

/-- The form of the document at a place. -/
def Form.load (content : String → Except Files.Fault ByteArray) (place : String) :
    Except LoadError Form := do
  let (format, text) ← documentText content place
  (Form.read format text).mapError .invalid

end EntryForm
