import EntryForm.Pattern.Property.Table
import EntryForm.Pattern.Fault

/-!
# Patterns — finding a Unicode property

A property is found by its name alone, which may be that of a category or a script, or by name and
value.  Letters count whatever their case; blanks, hyphens, underscores and an `is` in front do
not count.
-/

namespace EntryForm.Pattern

/-- A name as properties are found by it. -/
def plainName (name : String) : String :=
  let cs := name.toList
  let (is_, rest) : Bool × List Char :=
    match cs with
    | a :: b :: rest =>
        if (a == 'i' || a == 'I') && (b == 's' || b == 'S') then (true, rest) else (false, cs)
    | _ => (false, cs)
  let plain := (rest.filter fun c => c.toNat < 128 && c != ' ' && c != '_' && c != '-').map
    Char.toLower
  if is_ && plain == ['c'] then "isc" else String.ofList plain

namespace Property

/-- The property with this name among some. -/
def named? (name : String) (ps : List Property) : Option Property :=
  ps.find? (·.names.contains name)

/-- The property with this name among some; it has characters unless it is one of the `empty`. -/
def among (name : String) (ps : List Property) (empty : List String) :
    Option (Except Fault.Kind Property) :=
  if empty.contains name then some (.error .propertyValueUnknown)
  else (named? name ps).map .ok

/-- The values of a property, and those without characters; `none` if no property has the name. -/
def valuesOf? (name : String) : Option (List Property × List String) :=
  match name with
  | "gc" | "generalcategory" => some (categories, emptyCategories)
  | "sc" | "script" | "scx" | "scriptextensions" => some (scripts, emptyScripts)
  | "age" => some (ages, [])
  | "gcb" | "graphemeclusterbreak" => some (graphemeBreaks, [])
  | "wb" | "wordbreak" => some (wordBreaks, [])
  | "sb" | "sentencebreak" => some (sentenceBreaks, [])
  | _ =>
      if otherNames.contains name || (named? name binaries).isSome then some ([], []) else none

/-- The property that is asked for. -/
def find : Query → Except Fault.Kind Property
  | .binary name =>
      let name := plainName name
      let other := name != "cf" && name != "sc" && name != "lc" && otherNames.contains name
      if other then .error .propertyUnknown
      else
        match (named? name binaries).map .ok <|> among name categories emptyCategories <|>
            among name scripts emptyScripts with
        | some found => found
        | none => .error .propertyUnknown
  | .valued name value =>
      match valuesOf? (plainName name) with
      | none => .error .propertyUnknown
      | some (values, empty) =>
          (among (plainName value) values empty).getD (.error .propertyValueUnknown)

/-- The sizes of a shorthand class and of its complement. -/
def ofShorthand : Shorthand → Size × Size
  | .digit => (⟨1408, 4640⟩, ⟨2232, 11656⟩)
  | .space => (⟨424, 680⟩, ⟨824, 1924⟩)
  | .word => (⟨19968, 48168⟩, ⟨19440, 45064⟩)

end Property

end EntryForm.Pattern
