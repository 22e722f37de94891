import EntryForm.Json.Cursor
import EntryForm.Wire.Mismatch
import EntryForm.Text.Record

/-!
# JSON — faults

Why a JSON text cannot be read: it breaks the grammar, or a value in it does not have the shape
asked for.  A fault has a position in the text.
-/

namespace EntryForm.Json

/-- Why a text cannot be read. -/
inductive Fault where
  | endInList | endInObject | endInString | endInValue
  | expectedColon | expectedListEnd | expectedObjectEnd
  | expectedIdent | expectedValue
  | invalidEscape | invalidNumber | numberOutOfRange
  | controlCharacter | keyNotString | loneSurrogate | endOfSurrogate
  | trailingComma | trailingCharacters | tooDeep
  | mismatch (m : Wire.Mismatch)

/-- The wording of a fault. -/
def Fault.message : Fault → String
  | endInList => "EOF while parsing a list"
  | endInObject => "EOF while parsing an object"
  | endInString => "EOF while parsing a string"
  | endInValue => "EOF while parsing a value"
  | expectedColon => "expected `:`"
  | expectedListEnd => "expected `,` or `]`"
  | expectedObjectEnd => "expected `,` or `\x7d`"
  | expectedIdent => "expected ident"
  | expectedValue => "expected value"
  | invalidEscape => "invalid escape"
  | invalidNumber => "invalid number"
  | numberOutOfRange => "number out of range"
  | controlCharacter => "control character (\\u0000-\\u001F) found while parsing a string"
  | keyNotString => "key must be a string"
  | loneSurrogate => "lone leading surrogate in hex escape"
  | endOfSurrogate => "unexpected end of hex escape"
  | trailingComma => "trailing comma"
  | trailingCharacters => "trailing characters"
  | tooDeep => "recursion limit exceeded"
  | mismatch m => m.message .json

/-- A fault and where it is. -/
structure Error where
  fault : Fault
  position : Position

/-- The fault, then its line and column. -/
def Error.message (e : Error) : String :=
  e.fault.message ++ " at line " ++ toString e.position.line ++
    " column " ++ toString e.position.column

/-- The error in full. -/
def Error.detail (e : Error) : String :=
  Text.applied "Error"
    [Text.quoted e.fault.message, "line: " ++ toString e.position.line,
      "column: " ++ toString e.position.column]

/-- The fault `f`, at the cursor. -/
def Cursor.fail {α : Type} (k : Cursor) (f : Fault) : Except Error α := .error ⟨f, k.here⟩

/-- The fault `f`, one byte beyond the cursor. -/
def Cursor.failPeeked {α : Type} (k : Cursor) (f : Fault) : Except Error α :=
  .error ⟨f, k.peeked⟩

end EntryForm.Json
