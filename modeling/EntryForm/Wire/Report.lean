import EntryForm.Wire.Mismatch
import EntryForm.Rules.Form

/-!
# Wire — options and reports

Validation options and reports as JSON values.  A key of options may be left out and then has its
default; the keys of a finding and of a report are required.  A name from a fixed set stands as a
text, or as the only key of an object whose value is null.
-/

namespace EntryForm

namespace Wire

/-- A key of a small record, and how its value is taken up. -/
structure Part (σ : Type) where
  key : String
  required : Bool
  read : Json → Except Mismatch (σ → σ)

/-- Reads entries into parts; also lists the keys met. -/
def readEntries {σ : Type} (parts : List (Part σ)) :
    List (String × Json) → List String → σ → Except Mismatch (σ × List String)
  | [], met, d => .ok (d, met)
  | (key, v) :: rest, met, d =>
      match parts.find? (·.key == key) with
      | none => readEntries parts rest met d
      | some part =>
          if met.contains key then .error (.duplicateField key)
          else do
            let set ← part.read v
            readEntries parts rest (key :: met) (set d)

/-- Reads array elements into parts, in order; position `i` is next. -/
def readItems {σ : Type} (title : String) (count length : Nat) :
    Nat → List (Part σ) → List Json → σ → Except Mismatch σ
  | _, [], [], d => .ok d
  | _, [], _ :: _, _ => .error (.invalidLength length "fewer elements in array")
  | i, part :: parts, [], d =>
      if part.required then
        .error (.invalidLength i (title ++ " with " ++ toString count ++
          if count = 1 then " element" else " elements"))
      else readItems title count length (i + 1) parts [] d
  | i, part :: parts, v :: rest, d => do
      let set ← part.read v
      readItems title count length (i + 1) parts rest (set d)

/-- Reads a small record from an object or from an array. -/
def readParts {σ : Type} (title : String) (parts : List (Part σ)) (blank : σ) :
    Json → Except Mismatch σ
  | .obj entries => do
      let (d, met) ← readEntries parts entries [] blank
      match parts.find? fun part => part.required && !met.contains part.key with
      | some part => .error (.missingField part.key)
      | none => .ok d
  | .arr items => readItems title parts.length items.length 0 parts items blank
  | v => .error (.invalidType (.ofJson v) title)

/-- The value of that name. -/
def readName {α : Type} (name : α → String) (all : List α) (raw : String) : Except Mismatch α :=
  match all.find? (name · == raw) with
  | some x => .ok x
  | none => .error (.unknownVariant raw (all.map name))

/-- Reads a name from a fixed set. -/
def readVariant {α : Type} (name : α → String) (all : List α) : Json → Except Mismatch α
  | .str raw => readName name all raw
  | .obj [(raw, v)] => do
      let x ← readName name all raw
      match v with
      | .null => .ok x
      | _ => .error (.invalidType (.ofJson v) "unit")
  | .obj _ => .error (.invalidValue .map "map with a single key")
  | v => .error (.invalidType (.ofJson v) "string or map")

def readText : Json → Except Mismatch String
  | .str s => .ok s
  | v => .error (.invalidType (.ofJson v) "a string")

def readFlag : Json → Except Mismatch Bool
  | .bool b => .ok b
  | v => .error (.invalidType (.ofJson v) "a boolean")

/-- An unsigned 64-bit integer. -/
def readSize : Json → Except Mismatch Nat
  | .int n =>
      if 0 ≤ n ∧ n < Int.pow 2 64 then .ok n.toNat else .error (.invalidValue (.int n) "usize")
  | v => .error (.invalidType (.ofJson v) "usize")

/-- Reads every element of an array. -/
def readAll {α : Type} (read : Json → Except Mismatch α) : Json → Except Mismatch (List α)
  | .arr items => items.mapM read
  | v => .error (.invalidType (.ofJson v) "a sequence")

end Wire

open Wire

/-- Every mode, in the order messages list them. -/
def Exclusivity.all : List Exclusivity := [.strict, .lenient]

def Exclusivity.ofJson : Json → Except Mismatch Exclusivity := readVariant name all

def Exclusivity.toJson (e : Exclusivity) : Json := .str e.name

def Options.ofJson : Json → Except Mismatch Options :=
  readParts "struct ValidationOptions"
    [⟨"max_nesting_depth", false, fun v => do
        let n ← readSize v
        .ok fun d => { d with ceiling := n }⟩,
      ⟨"payload_exclusivity", false, fun v => do
        let e ← Exclusivity.ofJson v
        .ok fun d => { d with exclusivity := e }⟩]
    {}

def Options.toJson (o : Options) : Json :=
  .obj [("max_nesting_depth", .int o.ceiling), ("payload_exclusivity", o.exclusivity.toJson)]

def Violation.Kind.ofJson : Json → Except Mismatch Violation.Kind :=
  readVariant Violation.Kind.name Violation.Kind.all

def Violation.Kind.toJson (k : Violation.Kind) : Json := .str k.name

def Category.ofJson : Json → Except Mismatch Category := readVariant name all

def Category.toJson (c : Category) : Json := .str c.name

def Kind.ofJson : Json → Except Mismatch Kind := readVariant name all

def Kind.toJson (k : Kind) : Json := .str k.name

def Finding.ofJson : Json → Except Mismatch Finding :=
  readParts "struct Violation"
    [⟨"path", true, fun v => do
        let s ← readText v
        .ok fun d => { d with path := s }⟩,
      ⟨"kind", true, fun v => do
        let k ← Violation.Kind.ofJson v
        .ok fun d => { d with kind := k }⟩,
      ⟨"message", true, fun v => do
        let s ← readText v
        .ok fun d => { d with message := s }⟩]
    ⟨"", .missingField, ""⟩

def Finding.toJson (f : Finding) : Json :=
  .obj [("path", .str f.path), ("kind", f.kind.toJson), ("message", .str f.message)]

def Report.ofJson : Json → Except Mismatch Report :=
  readParts "struct ValidationReport"
    [⟨"valid", true, fun v => do
        let b ← readFlag v
        .ok fun d => { d with valid := b }⟩,
      ⟨"violations", true, fun v => do
        let fs ← readAll Finding.ofJson v
        .ok fun d => { d with findings := fs }⟩]
    ⟨true, []⟩

def Report.toJson (r : Report) : Json :=
  .obj [("valid", .bool r.valid), ("violations", .arr (r.findings.map Finding.toJson))]

end EntryForm
