import EntryForm.Command
import EntryForm.Text.Count

/-!
# Commands — arguments

The first argument that is no option names the command, and those after it belong to it.  An
option begins with two hyphens; its value stands after an equals sign or in the next argument,
which then begins with no hyphen.  Every option is given at most once.  After two hyphens alone,
no argument is an option.
-/

namespace EntryForm.Request

/-- Why reading the arguments of a command stops. -/
inductive Stop where
  | help | misuse
  deriving DecidableEq, Repr

/-- The request of a run that stops. -/
def Stop.request : Stop → Request
  | help => .help
  | misuse => .misuse

/-- The options of a command. -/
structure Repertoire where
  /-- The options without a value. -/
  switches : List String
  /-- The options with a value. -/
  settings : List String

/-- The arguments of a command. -/
structure Given where
  switches : List String := []
  settings : List (String × String) := []
  places : List String := []

namespace Given

/-- The value of an option. -/
def setting? (g : Given) (name : String) : Option String := g.settings.lookup name

/-- The option without a value is given. -/
def has (g : Given) (name : String) : Bool := g.switches.contains name

/-- One more option without a value. -/
def addSwitch (g : Given) (name : String) : Except Stop Given :=
  if g.has name then .error .misuse else .ok { g with switches := name :: g.switches }

/-- One more option with a value. -/
def addSetting (g : Given) (name value : String) : Except Stop Given :=
  if (g.setting? name).isSome then .error .misuse
  else .ok { g with settings := (name, value) :: g.settings }

end Given

/-! ### Arguments by form -/

/-- An argument, by its form. -/
inductive Argument where
  /-- Two hyphens alone. -/
  | divider
  /-- An option, with a value if an equals sign is in it. -/
  | option (name : String) (value : Option String)
  /-- Letters after a single hyphen. -/
  | letters (first : Char)
  | plain

/-- The form of an argument. -/
def Argument.ofText (argument : String) : Argument :=
  match argument.toList with
  | ['-', '-'] => .divider
  | '-' :: '-' :: rest =>
      let name := String.ofList (rest.takeWhile (· ≠ '='))
      match rest.dropWhile (· ≠ '=') with
      | [] => .option name none
      | _ :: value => .option name (some (String.ofList value))
  | '-' :: c :: _ => .letters c
  | _ => .plain

/-! ### The arguments of a command -/

/-- Takes up an option: what is given with it, or the name of the option whose value is next. -/
def takeOption (o : Repertoire) (g : Given) (name : String) (value : Option String) :
    Except Stop (Given × Option String) :=
  if o.switches.contains name then
    match value with
    | some _ => .error .misuse
    | none => (·, none) <$> g.addSwitch name
  else if o.settings.contains name then
    match value with
    | some text => (·, none) <$> g.addSetting name text
    | none => .ok (g, some name)
  else .error (if name = "help" && value.isNone then .help else .misuse)

/-- Reads the arguments of a command with these options, after some that are given; the value of
the option `awaited` comes next. -/
def readGiven (o : Repertoire) (g : Given) (awaited : Option String) :
    List String → Except Stop Given
  | [] => if awaited.isSome then .error .misuse else .ok g
  | argument :: rest =>
      match awaited, Argument.ofText argument with
      | some name, .plain => do readGiven o (← g.addSetting name argument) none rest
      | some _, _ => .error .misuse
      | none, .divider => .ok { g with places := g.places ++ rest }
      | none, .letters c => .error (if c = 'h' then .help else .misuse)
      | none, .plain => readGiven o { g with places := g.places ++ [argument] } none rest
      | none, .option name value => do
          let (g', next) ← takeOption o g name value
          readGiven o g' next rest

/-- What a text means, if it means something. -/
def meaning {α : Type} (found : Option α) : Except Stop α :=
  match found with
  | some x => .ok x
  | none => .error .misuse

/-- A place is not empty. -/
def place (text : String) : Except Stop String :=
  if text.isEmpty then .error .misuse else .ok text

/-- The value of an option, read by `read` if it is given. -/
def optional {α : Type} (g : Given) (name : String) (read : String → Except Stop α) :
    Except Stop (Option α) :=
  match g.setting? name with
  | none => .ok none
  | some text => some <$> read text

/-- The value of an option that must be given. -/
def required {α : Type} (g : Given) (name : String) (read : String → Except Stop α) :
    Except Stop α :=
  match g.setting? name with
  | none => .error .misuse
  | some text => read text

/-- The depth that a text writes. -/
def depth (text : String) : Except Stop Nat := meaning (Text.Count.read text).toOption

/-- The layout of that name. -/
def layout (text : String) : Except Stop Layout := meaning (Layout.all.find? (·.name == text))

/-- The format of that name. -/
def format (text : String) : Except Stop Format := meaning (Format.all.find? (·.name == text))

/-! ### Commands -/

/-- The option that has more told in the log; every command has it. -/
def verboseSwitch : String := "verbose"

/-- Reads the arguments of a command that takes no places. -/
def readPlaceless (settings : List String) (arguments : List String) : Except Stop Given := do
  let g ← readGiven ⟨[verboseSwitch], settings⟩ {} none arguments
  if g.places.isEmpty then .ok g else .error .misuse

/-- Reads a command by its name and arguments; also tells whether more is to be told. -/
def readCommand (name : String) (arguments : List String) : Except Stop (Bool × Command) :=
  match name with
  | "validate" => do
      let g ← readGiven ⟨[verboseSwitch, "lenient-payloads"], ["format", "max-depth", "include"]⟩
        {} none arguments
      let places ← g.places.mapM place
      if places.isEmpty then .error .misuse
      .ok (g.has verboseSwitch, .validate
        { places := places
          layout := (← optional g "format" layout).getD .text
          ceiling := ← optional g "max-depth" depth
          lenient := g.has "lenient-payloads"
          pattern := (g.setting? "include").getD Command.defaultPattern })
  | "schema" => do
      let g ← readPlaceless ["out"] arguments
      .ok (g.has verboseSwitch, .schema (← optional g "out" place))
  | "convert" => do
      let g ← readPlaceless ["input", "to", "out"] arguments
      .ok (g.has verboseSwitch, .convert
        { source := ← required g "input" place
          target := ← required g "to" format
          out := ← optional g "out" place })
  | _ => .error .misuse

/-- The names of the commands. -/
def commandNames : List String := ["validate", "schema", "convert"]

/-- Reads the arguments of a run, `verbose` having been given or not. -/
def readFrom (verbose : Bool) : List String → Request
  | [] => .misuse
  | argument :: rest =>
      match Argument.ofText argument with
      | .option "verbose" none => if verbose then .misuse else readFrom true rest
      | .option "version" none | .letters 'V' => .version
      | .option "help" none | .letters 'h' => .help
      | .plain =>
          if argument = "help" then
            match rest with
            | [] => .help
            | name :: _ => if commandNames.contains name then .help else .misuse
          else
            match readCommand argument rest with
            | .ok (more, c) => .run (verbose || more) c
            | .error s => s.request
      | _ => .misuse

/-- What the arguments of a run ask for. -/
def read (arguments : List String) : Request := readFrom false arguments

end EntryForm.Request
