import EntryForm.Command.Arguments
import EntryForm.Command.Batch
import EntryForm.Command.Settings
import EntryForm.Files.Disk
import EntryForm.Files.Scan
import EntryForm.Glob.Reader
import EntryForm.Log.Filter
import EntryForm.Schema

/-!
# Commands — runs

A run answers a request: with what it prints, the events of the log, how it exits, and at most one
text that is to be written to a file.  What it asks of files comes from a `Files.View`.
`Reply.saved` completes the reply when the text has been written, or could not be; `onDisk` is a
whole run on a disk.
-/

namespace EntryForm.Run

/-- Why a run fails. -/
inductive Failure where
  | depth (f : Settings.DepthFault)
  | glob (e : Glob.Error)
  | noDocuments
  /-- Some of the documents are not valid. -/
  | invalid (failed total : Nat)
  | load (e : LoadError)
  | files (f : Files.Fault)

/-- A failure in full. -/
def Failure.detail : Failure → String
  | depth f => Text.quoted f.message
  | glob e => e.detail
  | noDocuments => Text.quoted "no form documents found"
  | invalid failed total =>
      Text.quoted
        (toString failed ++ " of " ++ toString total ++ " documents failed validation")
  | load e => e.detail
  | files f => f.detail

/-- The answer of a run. -/
structure Reply where
  code : Nat := 0
  out : String := ""
  err : String := ""
  log : List Log.Event := []
  /-- A place, and the text to write there. -/
  save : Option (String × String) := none

namespace Reply

/-- The reply that fails after some text is printed and some events are logged. -/
def failedAfter (out : String) (log : List Log.Event) (f : Failure) : Reply :=
  { code := 1, out := out, err := "Error: " ++ f.detail ++ "\n", log := log }

/-- The reply that fails at once. -/
def failed (f : Failure) : Reply := failedAfter "" [] f

/-- The reply with a text, printed without the blanks at its end or written to a file. -/
def deliver (text : String) (out : Option String) (log : List Log.Event) : Reply :=
  match out with
  | some place => { log := log, save := some (place, text) }
  | none => { out := Text.trimEnd text ++ "\n", log := log }

/-- The reply when the text at `place` has been written, or could not be. -/
def saved (r : Reply) (place : String) : Except Files.Fault Unit → Reply
  | .ok _ => { r with out := r.out ++ "Wrote " ++ place ++ "\n" }
  | .error f => failedAfter r.out r.log (.files f)

end Reply

/-! ### Commands -/

/-- The documents that a validation is about. -/
def documents {α : Type} (folder? : String → Option (Files.Tree α)) (v : Command.Validation) :
    Except Glob.Error (List String) :=
  (Glob.read v.pattern).map fun g => Files.collect g.accepts folder? v.places

/-- Documents are about to be validated. -/
def validating (count : Nat) (o : Options) : Log.Event :=
  let mode := match o.exclusivity with
    | .strict => "Strict"
    | .lenient => "Lenient"
  { level := .debug
    source := "form_dsl"
    message := "validating form documents"
    fields :=
      [("count", toString count),
        ("options", Text.record "ValidationOptions"
          [("max_nesting_depth", toString o.ceiling), ("payload_exclusivity", mode)])] }

/-- The reply to a validation of documents. -/
def replyTo (content : String → Except Files.Fault ByteArray) (layout : Layout) (o : Options)
    (places : List String) : Reply :=
  let outcomes := places.map (Batch.Outcome.of content o)
  let out := Batch.show_ layout outcomes
  let log := validating places.length o :: places.flatMap (Batch.events content o)
  let failed := outcomes.countP fun r => !r.isValid
  if failed = 0 then { out := out, log := log }
  else .failedAfter out log (.invalid failed places.length)

/-- Validates. -/
def validate {α : Type} (files : Files.View α) (environment : String → Option String)
    (v : Command.Validation) : Reply :=
  match Settings.resolve v.ceiling v.lenient environment with
  | .error f => .failed (.depth f)
  | .ok o =>
      match documents files.folder? v with
      | .error e => .failed (.glob e)
      | .ok [] => .failed .noDocuments
      | .ok places => replyTo files.content v.layout o places

/-- A form with violations is converted. -/
def convertingInvalid (place : String) (violations : Nat) : Log.Event :=
  { level := .warn
    source := "form_dsl"
    message := "converting a form definition that does not validate"
    fields := [("path", place), ("violations", toString violations)] }

/-- Converts. -/
def convert (content : String → Except Files.Fault ByteArray) (c : Command.Conversion) : Reply :=
  let log := Batch.events content {} c.source
  match Form.load content c.source with
  | .error e => .failedAfter "" log (.load e)
  | .ok f =>
      let found := (f.violations {}).length
      let warning := if found = 0 then [] else [convertingInvalid c.source found]
      .deliver (f.write c.target) c.out (log ++ warning)

/-- Runs a command. -/
def command {α : Type} (files : Files.View α) (environment : String → Option String) :
    Command → Reply
  | .validate v => validate files environment v
  | .schema out => .deliver (Json.pretty Schema.document) out []
  | .convert c => convert files.content c

/-! ### Requests -/

/-- The name of the program and its version. -/
def versionLine : String := "form-dsl 0.4.7\n"

/-- How the program is called. -/
def usage : String :=
  "Usage: form-dsl [--verbose] <COMMAND>\n\n" ++
  "  validate <PATH>... [--format text|json] [--max-depth N] [--lenient-payloads] " ++
  "[--include GLOB]\n" ++
  "  schema [--out FILE]\n" ++
  "  convert --input INPUT --to json|yaml [--out FILE]\n"

/-- Answers a request. -/
def answer {α : Type} (files : Files.View α) (environment : String → Option String) :
    Request → Reply
  | .version => { out := versionLine }
  | .help => { out := usage }
  | .misuse => { code := 2, err := usage }
  | .run _ c => command files environment c

/-- The environment's name of the filter of the log. -/
def filterName : String := "RUST_LOG"

/-- The filter of the log: that of the environment if it can be read. -/
def filter (environment : String → Option String) (request : Request) : Log.Filter :=
  match (environment filterName).bind Log.Filter.read? with
  | some f => f
  | none =>
      match request with
      | .run true _ => .downTo .debug
      | _ => .downTo .warn

/-- A whole run on a disk: the reply, the lines of the log, and the disk after it. -/
def onDisk (d : Files.Disk) (environment : String → Option String) (arguments : List String) :
    Reply × List String × Files.Disk :=
  let request := Request.read arguments
  let r := answer d.view environment request
  let (r, d) :=
    match r.save with
    | none => (r, d)
    | some (place, text) =>
        match d.save place text.toUTF8 with
        | .ok d' => (r.saved place (.ok ()), d')
        | .error f => (r.saved place (.error f), d)
  (r, (filter environment request).lines r.log, d)

end EntryForm.Run
