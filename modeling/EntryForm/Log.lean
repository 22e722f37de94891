/-!
# Log

What a command does is told in events, each of a level and from a part of the program.  An event
is written on one line; which events are written is up to a `Log.Filter`.
-/

namespace EntryForm.Log

/-- How much an event matters, the most important first. -/
inductive Level where
  | error | warn | info | debug | trace
  deriving DecidableEq, Repr

namespace Level

/-- Every level, the most important first. -/
def all : List Level := [.error, .warn, .info, .debug, .trace]

/-- The name in a line. -/
def name : Level → String
  | error => "ERROR"
  | warn => "WARN"
  | info => "INFO"
  | debug => "DEBUG"
  | trace => "TRACE"

/-- The levels from one on: the events of a level are written when as many levels are. -/
def rank : Level → Nat
  | error => 1
  | warn => 2
  | info => 3
  | debug => 4
  | trace => 5

end Level

/-- Something that a command has done. -/
structure Event where
  level : Level
  /-- The part of the program that it is from. -/
  source : String
  message : String
  /-- More about it, by name. -/
  fields : List (String × String) := []
  deriving DecidableEq, Repr

/-- The line that tells an event. -/
def Event.line (e : Event) : String :=
  e.level.name ++ " " ++ e.source ++ ": " ++
    " ".intercalate (e.message :: e.fields.map fun f => f.1 ++ "=" ++ f.2)

end EntryForm.Log
