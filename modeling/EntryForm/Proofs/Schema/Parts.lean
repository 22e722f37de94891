import EntryForm.Proofs.Json.Sorting
import EntryForm.Proofs.Schema.Validity

/-!
# Proofs — Schema — the parts of the schema

Where the schema of documents has what it says about a record, and what that is.

* `pointer?_definition`: the pointer to the definition of a record leads there.
* `lookup_recordProperties`: the properties of a record are its keys, each with the schema of the
  shape that the key has.
-/

namespace EntryForm
open Wire

namespace Schema

/-! ### Definitions -/

/-- Every record but the form has a definition. -/
theorem mem_defined {r : Record} (h : r ≠ .form) : r ∈ defined := by
  cases r with
  | form => exact absurd rfl h
  | _ => decide

/-- No two definitions have the same name. -/
theorem nodup_names : (defined.map name).Nodup := by decide

/-- Under its name stand the keywords of a record. -/
theorem lookup_definitions {r : Record} (h : r ≠ .form) :
    definitions.lookup (name r) = some (.obj (recordKeywords r)) := by
  have keys :
      ((defined.map fun r => (name r, Json.obj (recordKeywords r))).map Prod.fst).Nodup := by
    rw [List.map_map]
    exact nodup_names
  rw [definitions, lookup_sortEntries keys]
  exact lookup_eq_some_of_mem keys (List.mem_map_of_mem (mem_defined h))

/-- The keywords of the whole schema. -/
def documentKeywords : List (String × Json) := [
  ("$schema", .str "https://json-schema.org/draft/2020-12/schema"), ("title", .str (name .form)),
  ("$defs", .obj definitions)] ++ recordKeywords .form

/-- The schema is its keywords, sorted. -/
theorem document_eq : document = .obj (sortEntries documentKeywords) := rfl

theorem nodup_documentKeywords : (documentKeywords.map Prod.fst).Nodup := by decide

/-- The definitions stand where references look for them. -/
theorem get?_definitions : document.get? "$defs" = some (.obj definitions) := by
  rw [document_eq, Json.get?, lookup_sortEntries nodup_documentKeywords]
  exact lookup_eq_some_of_mem nodup_documentKeywords (by simp [documentKeywords])

/-- Names are of letters. -/
theorem not_mem_name {c : Char} (hc : c.isAlpha = false) (r : Record) : c ∉ (name r).toList := by
  have letters : (name r).toList.all Char.isAlpha = true := by cases r <;> rfl
  intro hmem
  have letter := List.all_eq_true.mp letters c hmem
  rw [hc] at letter
  cases letter

/-- Marks are replaced only where they are. -/
theorem unescapeStep_of_not_mem {step : List Char} (h : '~' ∉ step) : unescapeStep step = step := by
  induction step with
  | nil => rfl
  | cons c rest ih =>
      rw [List.mem_cons, not_or] at h
      rw [unescapeStep, ih h.2]
      · rintro _ rfl -
        exact h.1 rfl
      · rintro _ rfl -
        exact h.1 rfl

/-- The pointer to the definition of a record. -/
theorem pointer?_definition {r : Record} (h : r ≠ .form) :
    document.pointer? ("/$defs/" ++ name r) = some (.obj (recordKeywords r)) := by
  have text : ("/$defs/" ++ name r).toList = '/' :: ("$defs".toList ++ '/' :: (name r).toList) := by
    rw [String.toList_append]
    rfl
  have steps : Text.pieces '/' ("$defs".toList ++ '/' :: (name r).toList) =
      ["$defs".toList, (name r).toList] := by
    rw [Text.pieces_append, Text.pieces_of_not_mem (not_mem_name (by decide) r),
      Text.pieces_of_not_mem (by decide)]
    rfl
  have plain : String.ofList (unescapeStep (name r).toList) = name r := by
    rw [unescapeStep_of_not_mem (not_mem_name (by decide) r), String.ofList_toList]
  have first : document.step? "$defs".toList = some (.obj definitions) := get?_definitions
  have second : (Json.obj definitions).step? (name r).toList =
      some (.obj (recordKeywords r)) := by
    rw [Json.step?, plain, lookup_definitions h]
  rw [Json.pointer?, text]
  simp only [steps, List.foldlM_cons, List.foldlM_nil, first, second, Option.bind_eq_bind,
    Option.bind_some]
  rfl

/-! ### Properties -/

/-- What stands beside the keywords of a property: the default of its slot, if it has one. -/
def notes (r : Record) (key : String) : List (String × Json) :=
  (((r.encode (r.finish r.blank)).get? key).map fun v => ("default", v)).toList

/-- Beside the keywords of a property stands a default at most. -/
theorem fst_of_mem_notes {r : Record} {key : String} {e : String × Json} (h : e ∈ notes r key) :
    e.1 = "default" := by
  rw [notes, Option.mem_toList, Option.map_eq_some_iff] at h
  obtain ⟨-, -, rfl⟩ := h
  rfl

/-- The properties of a record, sorted, each with its note and its keywords. -/
theorem recordProperties_eq (r : Record) : recordProperties r =
    sortEntries (r.keys.map fun e => (e.1, .obj (notes r e.1 ++ keywords e.2.2 e.2.1))) := by
  rw [recordProperties, Record.keys, List.map_append, List.map_map]
  cases hr : r.inlined with
  | none => rfl
  | some inner =>
      simp only [List.map_map]
      rfl

/-- A property has the schema of the shape that its key has. -/
theorem lookup_recordProperties (r : Record) (key : String) : (recordProperties r).lookup key =
    (r.keys.lookup key).map fun e => .obj (notes r key ++ keywords e.2 e.1) := by
  have keys : ((r.keys.map fun e =>
      (e.1, Json.obj (notes r e.1 ++ keywords e.2.2 e.2.1))).map Prod.fst).Nodup := by
    rw [List.map_map]
    exact nodup_recordKeys r
  rw [recordProperties_eq, lookup_sortEntries keys]
  exact lookup_map (fun key (e : Shape × Bool) => Json.obj (notes r key ++ keywords e.2 e.1)) key

end Schema

end EntryForm
