import EntryForm.Schema

/-!
# Proofs — Schema — validity

What it means for a JSON value to be valid against a JSON Schema, for the keywords that the schema
of documents uses.

* `Json.types`: the names of the types that a value has.
* `Valid root schema v`: the value is valid against the schema, a part of the document `root`.
* `Meets root declared k content v`: the value meets one keyword of a schema.  The keyword for
  additional properties is about the members that its neighbour `properties` does not declare.
* `valid_object` and `meets_…`: what a schema and each of its keywords ask for.

A reference is followed within the document.  Validity is the least relation with these rules: a
schema that refers to itself without a step into the value makes nothing valid.
-/

namespace EntryForm

/-! ### Values -/

namespace Json

/-- The names of the types of a value.  A number without a fraction is an integer, and a number
that is not finite has no type, as no text stands for it. -/
def types : Json → List String
  | .null => ["null"]
  | .bool _ => ["boolean"]
  | .int _ => ["integer", "number"]
  | .float x =>
      if x.isFinite then if x.floor == x then ["integer", "number"] else ["number"] else []
  | .str _ => ["string"]
  | .arr _ => ["array"]
  | .obj _ => ["object"]

/-- The members of an object; other values have none. -/
def members : Json → List (String × Json)
  | .obj entries => entries
  | _ => []

/-- The elements of an array; other values have none. -/
def elements : Json → List Json
  | .arr items => items
  | _ => []

/-- A finite float is a number. -/
theorem number_mem_types {x : Float} (h : x.isFinite = true) : "number" ∈ (float x).types := by
  rw [types, if_pos h]
  split <;> decide

/-- A float is nothing but a number or an integer. -/
theorem not_mem_types_float {x : Float} {type : String} (hinteger : type ≠ "integer")
    (hnumber : type ≠ "number") : type ∉ (float x).types := by
  rw [types]
  split
  · split <;> simp [hinteger, hnumber]
  · exact List.not_mem_nil

variable {v : Json}

theorem null_mem_types : "null" ∈ v.types ↔ v = .null := by
  cases v with
  | float x => exact iff_of_false (not_mem_types_float (by decide) (by decide)) nofun
  | _ => simp [types]

theorem string_mem_types : "string" ∈ v.types ↔ ∃ t, v = .str t := by
  cases v with
  | float x => exact iff_of_false (not_mem_types_float (by decide) (by decide)) nofun
  | _ => simp [types]

theorem boolean_mem_types : "boolean" ∈ v.types ↔ ∃ b, v = .bool b := by
  cases v with
  | float x => exact iff_of_false (not_mem_types_float (by decide) (by decide)) nofun
  | _ => simp [types]

theorem array_mem_types : "array" ∈ v.types ↔ ∃ items, v = .arr items := by
  cases v with
  | float x => exact iff_of_false (not_mem_types_float (by decide) (by decide)) nofun
  | _ => simp [types]

theorem object_mem_types : "object" ∈ v.types ↔ ∃ entries, v = .obj entries := by
  cases v with
  | float x => exact iff_of_false (not_mem_types_float (by decide) (by decide)) nofun
  | _ => simp [types]

end Json

namespace Schema

/-! ### Rules -/

/-- What a keyword of a schema does.  A note says nothing about the value. -/
inductive Keyword where
  | note | type | properties | required | items | additionalProperties | ref | anyOf
  deriving DecidableEq, Repr

/-- The keywords by their names. -/
def Keyword.names : List (String × Keyword) := [
  ("$schema", .note), ("title", .note), ("description", .note),
  ("default", .note), ("format", .note), ("$defs", .note), ("type", .type),
  ("properties", .properties), ("required", .required), ("items", .items),
  ("additionalProperties", .additionalProperties), ("$ref", .ref), ("anyOf", .anyOf)]

/-- The names of the properties that stand beside a keyword. -/
def declared (schema : List (String × Json)) : List String :=
  match schema.lookup "properties" with
  | some properties => properties.members.map Prod.fst
  | none => []

mutual

/-- The value is valid against the schema, whose keywords are all known. -/
inductive Valid (root : Json) : Json → Json → Prop where
  | anything (v : Json) : Valid root (.bool true) v
  | object {schema : List (String × Json)} {v : Json}
      (known : ∀ k ∈ schema, (Keyword.names.lookup k.1).isSome)
      (each : ∀ k ∈ schema, ∀ kind, Keyword.names.lookup k.1 = some kind →
        Meets root (declared schema) kind k.2 v) : Valid root (.obj schema) v

/-- The value meets a keyword with its content. -/
inductive Meets (root : Json) : List String → Keyword → Json → Json → Prop where
  | note {names : List String} {content v : Json} : Meets root names .note content v
  | type {names : List String} {type : String} {v : Json} (has : type ∈ v.types) :
      Meets root names .type (.str type) v
  | oneOfTypes {names : List String} {types : List Json} {type : String} {v : Json}
      (listed : .str type ∈ types) (has : type ∈ v.types) : Meets root names .type (.arr types) v
  | properties {names : List String} {schemas : List (String × Json)} {v : Json}
      (each : ∀ key schema w, schemas.lookup key = some schema → (key, w) ∈ v.members →
        Valid root schema w) : Meets root names .properties (.obj schemas) v
  | required {names : List String} {keys : List Json} {v : Json}
      (each : ∀ entries, v = .obj entries → ∀ key, .str key ∈ keys →
        key ∈ entries.map Prod.fst) : Meets root names .required (.arr keys) v
  | items {names : List String} {schema v : Json} (each : ∀ w ∈ v.elements, Valid root schema w) :
      Meets root names .items schema v
  | additionalProperties {names : List String} {schema v : Json}
      (each : ∀ e ∈ v.members, e.1 ∉ names → Valid root schema e.2) :
      Meets root names .additionalProperties schema v
  | ref {names : List String} {pointer : String} {schema v : Json}
      (plain : '%' ∉ pointer.toList) (found : root.pointer? pointer = some schema)
      (valid : Valid root schema v) : Meets root names .ref (.str ("#" ++ pointer)) v
  | anyOf {names : List String} {schemas : List Json} {schema v : Json}
      (listed : schema ∈ schemas) (valid : Valid root schema v) :
      Meets root names .anyOf (.arr schemas) v

end

/-! ### Keywords -/

section Keywords

variable {root schema v : Json} {names : List String}

/-- A value is valid against an object if it meets each of its keywords. -/
theorem valid_object {ks : List (String × Json)} : Valid root (.obj ks) v ↔
    ∀ k ∈ ks, ∃ kind, Keyword.names.lookup k.1 = some kind ∧
      Meets root (declared ks) kind k.2 v := by
  constructor
  · rintro ⟨_⟩ k hk
    next known each =>
    obtain ⟨kind, hkind⟩ := Option.isSome_iff_exists.mp (known k hk)
    exact ⟨kind, hkind, each k hk kind hkind⟩
  · intro h
    refine .object (fun k hk => ?_) fun k hk kind hkind => ?_
    · obtain ⟨kind, hkind, -⟩ := h k hk
      exact Option.isSome_iff_exists.mpr ⟨kind, hkind⟩
    · obtain ⟨other, hother, meets⟩ := h k hk
      obtain rfl := Option.some.inj (hkind.symm.trans hother)
      exact meets

/-- What a keyword does depends on its name alone. -/
theorem exists_kind {key : String} (kind : Keyword) {content : Json}
    (h : Keyword.names.lookup key = some kind) :
    (∃ kind, Keyword.names.lookup key = some kind ∧ Meets root names kind content v) ↔
      Meets root names kind content v := by
  simp only [h, Option.some.injEq, exists_eq_left']

/-- A note asks for nothing. -/
theorem meets_note {content : Json} : Meets root names .note content v ↔ True :=
  ⟨fun _ => trivial, fun _ => .note⟩

theorem meets_type {type : String} : Meets root names .type (.str type) v ↔ type ∈ v.types := by
  constructor
  · rintro ⟨⟩
    assumption
  · exact .type

theorem meets_types {types : List Json} : Meets root names .type (.arr types) v ↔
    ∃ type, .str type ∈ types ∧ type ∈ v.types := by
  constructor
  · rintro ⟨⟩
    next type listed has => exact ⟨type, listed, has⟩
  · rintro ⟨type, listed, has⟩
    exact .oneOfTypes listed has

/-- Properties ask of each member that has a schema that it be valid. -/
theorem meets_properties {schemas : List (String × Json)} :
    Meets root names .properties (.obj schemas) v ↔
      ∀ key schema w, schemas.lookup key = some schema → (key, w) ∈ v.members →
        Valid root schema w := by
  constructor
  · rintro ⟨⟩
    assumption
  · exact .properties

/-- Items are valid one by one. -/
theorem meets_items : Meets root names .items schema v ↔
    ∀ w ∈ v.elements, Valid root schema w := by
  constructor
  · rintro ⟨⟩
    assumption
  · exact .items

/-- The schema for other members asks for those that are not declared. -/
theorem meets_additionalProperties : Meets root names .additionalProperties schema v ↔
    ∀ e ∈ v.members, e.1 ∉ names → Valid root schema e.2 := by
  constructor
  · rintro ⟨⟩
    assumption
  · exact .additionalProperties

/-- A reference asks for what it points to, which has to be there. -/
theorem meets_ref {pointer : String} : Meets root names .ref (.str ("#" ++ pointer)) v ↔
    '%' ∉ pointer.toList ∧ ∃ schema, root.pointer? pointer = some schema ∧
      Valid root schema v := by
  constructor
  · intro h
    generalize hc : Json.str ("#" ++ pointer) = content at h
    cases h with
    | ref plain found valid =>
        have same := congrArg String.toList (Json.str.inj hc)
        rw [String.toList_append, String.toList_append] at same
        obtain rfl := String.toList_inj.mp (List.append_cancel_left same)
        exact ⟨plain, _, found, valid⟩
  · rintro ⟨plain, schema, found, valid⟩
    exact .ref plain found valid

/-- One of the schemas is enough. -/
theorem meets_anyOf {schemas : List Json} : Meets root names .anyOf (.arr schemas) v ↔
    ∃ schema ∈ schemas, Valid root schema v := by
  constructor
  · rintro ⟨⟩
    next schema listed valid => exact ⟨schema, listed, valid⟩
  · rintro ⟨schema, listed, valid⟩
    exact .anyOf listed valid

end Keywords

end Schema

end EntryForm
