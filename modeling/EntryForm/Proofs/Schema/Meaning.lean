import EntryForm.Proofs.Schema.Parts

/-!
# Proofs — Schema — what the schema says

The schema of documents says neither more nor less than the shapes do, about objects whose keys
are known and about the types of what stands there.

* `Fits n s v`: the value has the shape, or is null if `n`.  An object may have any further keys,
  and may lack any.
* `valid_iff_fits`: a value is valid against the keywords for a shape just when it fits.
* `valid_document_iff`: a value is valid against the schema of documents just when it fits a form.
-/

namespace EntryForm.Schema
open Wire

/-- The value has the shape, or is null where it may be. -/
inductive Fits : Bool → Shape → Json → Prop where
  | null (s : Shape) : Fits true s .null
  | text {n : Bool} (t : String) : Fits n .text (.str t)
  | flag {n : Bool} (b : Bool) : Fits n .flag (.bool b)
  | count {n : Bool} {v : Json} (whole : "integer" ∈ v.types) : Fits n .count v
  | number {n : Bool} {v : Json} (number : "number" ∈ v.types) : Fits n .number v
  | labels {n : Bool} {es : List (String × Json)} (texts : ∀ e ∈ es, ∃ t, e.2 = .str t) :
      Fits n .labels (.obj es)
  | free {n : Bool} (es : List (String × Json)) : Fits n .free (.obj es)
  | list {n : Bool} {s : Shape} {items : List Json} (each : ∀ v ∈ items, Fits false s v) :
      Fits n (.list s) (.arr items)
  | record {n : Bool} {r : Record} {es : List (String × Json)}
      (each : ∀ e ∈ es, ∀ s m, r.keys.lookup e.1 = some (s, m) → Fits m s e.2) :
      Fits n (.record r) (.obj es)

/-! ### Types -/

section Types

variable {n : Bool} {s : Shape} {v : Json} {names : List String}

/-- The type keyword of a shape asks for its type, or for null where it may be. -/
theorem meets_typed {type : String} : Meets document names .type (typed type n).2 v ↔
    type ∈ v.types ∨ n = true ∧ v = .null := by
  cases n with
  | false =>
      rw [typed, if_neg Bool.false_ne_true, meets_type]
      simp
  | true =>
      rw [typed, if_pos rfl, meets_types]
      simp [or_and_right, exists_or, Json.null_mem_types]

/-- A schema of a type alone. -/
theorem valid_typed {type : String} : Valid document (.obj [typed type n]) v ↔
    type ∈ v.types ∨ n = true ∧ v = .null := by
  rw [valid_object, List.forall_mem_singleton, exists_kind .type rfl, meets_typed]

/-- A schema of a type and one more keyword. -/
theorem valid_pair (kind : Keyword) {key type : String} {content : Json}
    (hkey : Keyword.names.lookup key = some kind) :
    Valid document (.obj [(key, content), typed type n]) v ↔
      Meets document (declared [(key, content), typed type n]) kind content v ∧
        (type ∈ v.types ∨ n = true ∧ v = .null) := by
  rw [valid_object, List.forall_mem_cons, List.forall_mem_singleton, exists_kind kind hkey,
    exists_kind .type rfl, meets_typed]

/-- What is asked of the parts of a value, and that it has them unless it is null. -/
theorem forall_and_typed {β : Type} {parts : Json → List β} {mk : List β → Json} {Q : β → Prop}
    (hmk : ∀ xs, parts (mk xs) = xs) (hnull : parts .null = []) :
    (∀ x ∈ parts v, Q x) ∧ ((∃ xs, v = mk xs) ∨ n = true ∧ v = .null) ↔
      (∃ xs, v = mk xs ∧ ∀ x ∈ xs, Q x) ∨ n = true ∧ v = .null := by
  constructor
  · rintro ⟨each, ⟨xs, rfl⟩ | null⟩
    · exact .inl ⟨xs, rfl, hmk xs ▸ each⟩
    · exact .inr null
  · rintro (⟨xs, rfl, each⟩ | ⟨hn, rfl⟩)
    · exact ⟨(hmk xs).symm ▸ each, .inl ⟨xs, rfl⟩⟩
    · exact ⟨hnull ▸ List.forall_mem_nil Q, .inr ⟨hn, rfl⟩⟩

/-! ### Shapes without records -/

/-- The schema of a text accepts texts. -/
theorem valid_text : Valid document (.obj (keywords n .text)) v ↔
    (∃ t, v = .str t) ∨ n = true ∧ v = .null := by
  rw [keywords, valid_typed, Json.string_mem_types]

theorem valid_flag : Valid document (.obj (keywords n .flag)) v ↔
    (∃ b, v = .bool b) ∨ n = true ∧ v = .null := by
  rw [keywords, valid_typed, Json.boolean_mem_types]

/-- The schema of a count accepts integers. -/
theorem valid_count : Valid document (.obj (keywords n .count)) v ↔
    "integer" ∈ v.types ∨ n = true ∧ v = .null := by
  rw [keywords, valid_pair .note rfl, meets_note, true_and]

/-- The schema of a number accepts numbers. -/
theorem valid_number : Valid document (.obj (keywords n .number)) v ↔
    "number" ∈ v.types ∨ n = true ∧ v = .null := by
  rw [keywords, valid_pair .note rfl, meets_note, true_and]

/-- The schema of labels accepts objects of texts. -/
theorem valid_labels : Valid document (.obj (keywords n .labels)) v ↔
    (∃ es, v = .obj es ∧ ∀ e ∈ es, ∃ t, e.2 = .str t) ∨ n = true ∧ v = .null := by
  have texts : Meets document [] .additionalProperties (.obj [typed "string" false]) v ↔
      ∀ e ∈ v.members, ∃ t, e.2 = .str t := by
    simp only [meets_additionalProperties, valid_typed, Json.string_mem_types, List.not_mem_nil,
      not_false_eq_true, forall_const, Bool.false_eq_true, false_and, or_false]
  rw [keywords, valid_pair .additionalProperties rfl, Json.object_mem_types]
  exact (and_congr_left' texts).trans (forall_and_typed (fun _ => rfl) rfl)

/-- The schema of free members accepts any object. -/
theorem valid_free : Valid document (.obj (keywords n .free)) v ↔
    (∃ es, v = .obj es) ∨ n = true ∧ v = .null := by
  have anything : Meets document [] .additionalProperties (.bool true) v :=
    meets_additionalProperties.mpr fun e _ _ => .anything e.2
  rw [keywords, valid_pair .additionalProperties rfl, Json.object_mem_types]
  exact and_iff_right anything

/-- The schema of a list accepts arrays of what the schema of its items accepts. -/
theorem valid_list : Valid document (.obj (keywords n (.list s))) v ↔
    (∃ items, v = .arr items ∧ ∀ w ∈ items, Valid document (.obj (keywords false s)) w) ∨
      n = true ∧ v = .null := by
  rw [keywords, valid_pair .items rfl, meets_items, Json.array_mem_types]
  exact forall_and_typed (fun _ => rfl) rfl

end Types

/-! ### Records -/

section Records

variable {r : Record} {n : Bool} {v : Json}

/-- The keywords of a shape are not changed by a default beside them. -/
theorem valid_notes {key : String} {s : Shape} :
    Valid document (.obj (notes r key ++ keywords n s)) v ↔
      Valid document (.obj (keywords n s)) v := by
  have missing : (notes r key).lookup "properties" = none :=
    List.lookup_eq_none_iff.mpr fun e he => by rw [fst_of_mem_notes he]; decide
  have same : declared (notes r key ++ keywords n s) = declared (keywords n s) := by
    rw [declared, List.lookup_append, missing, Option.none_or, declared]
  rw [valid_object, valid_object, same, List.forall_mem_append]
  refine and_iff_right fun e he => ⟨.note, ?_, .note⟩
  rw [fst_of_mem_notes he]
  rfl

/-- The value is an object that has under the keys of the record what the schema asks for. -/
def IsRecord (r : Record) (v : Json) : Prop :=
  ∃ es, v = .obj es ∧ ∀ e ∈ es, ∀ s n, r.keys.lookup e.1 = some (s, n) →
    Valid document (.obj (keywords n s)) e.2

/-- The keywords of a record ask for an object with what the record has under its keys. -/
theorem meets_recordKeywords {names : List String} : (∀ k ∈ recordKeywords r, ∃ kind,
    Keyword.names.lookup k.1 = some kind ∧ Meets document names kind k.2 v) ↔ IsRecord r v := by
  have description : ∀ k ∈ present "description" .str (description? r), ∃ kind,
      Keyword.names.lookup k.1 = some kind ∧ Meets document names kind k.2 v := by
    intro k hk
    cases hd : description? r with
    | none =>
        rw [hd] at hk
        cases hk
    | some text =>
        rw [hd] at hk
        obtain rfl := List.mem_singleton.mp hk
        exact ⟨.note, rfl, .note⟩
  rw [recordKeywords, List.forall_mem_append, and_iff_right description, List.forall_mem_cons,
    List.forall_mem_singleton, exists_kind .properties rfl, exists_kind .type rfl,
    meets_properties, meets_typed, Json.object_mem_types]
  simp only [lookup_recordProperties, Option.map_eq_some_iff]
  constructor
  · rintro ⟨each, ⟨es, rfl⟩ | ⟨hn, -⟩⟩
    · refine ⟨es, rfl, fun e he s n known => ?_⟩
      exact valid_notes.mp (each e.1 _ e.2 ⟨(s, n), known, rfl⟩ he)
    · cases hn
  · rintro ⟨es, rfl, each⟩
    refine ⟨?_, .inl ⟨es, rfl⟩⟩
    rintro key _ w ⟨⟨s, n⟩, known, rfl⟩ hw
    exact valid_notes.mpr (each (key, w) hw s n known)

/-- A reference to a record asks for what its keywords ask for. -/
theorem valid_reference (hr : r ≠ .form) :
    Valid document (.obj [("$ref", .str ("#/$defs/" ++ name r))]) v ↔ IsRecord r v := by
  have text : "#/$defs/" ++ name r = "#" ++ ("/$defs/" ++ name r) := by
    rw [← String.append_assoc]
    rfl
  have plain : '%' ∉ ("/$defs/" ++ name r).toList := by
    rw [String.toList_append, List.mem_append, not_or]
    exact ⟨by decide, not_mem_name (by decide) r⟩
  rw [valid_object, List.forall_mem_singleton, text, exists_kind .ref rfl, meets_ref,
    and_iff_right plain, pointer?_definition hr]
  simp only [Option.some.injEq, exists_eq_left']
  rw [valid_object, meets_recordKeywords]

/-- The schema of a record accepts what is one, or null where it may be. -/
theorem valid_record (hr : r ≠ .form) : Valid document (.obj (keywords n (.record r))) v ↔
    IsRecord r v ∨ n = true ∧ v = .null := by
  cases n with
  | false =>
      rw [keywords, if_neg Bool.false_ne_true, valid_reference hr]
      simp
  | true =>
      rw [keywords, if_pos rfl, valid_object, List.forall_mem_singleton,
        exists_kind .anyOf rfl, meets_anyOf]
      simp only [List.mem_cons, List.not_mem_nil, or_false, exists_eq_or_imp, exists_eq_left,
        valid_reference hr, valid_typed, Json.null_mem_types, Bool.false_eq_true, false_and,
        true_and]

end Records

/-! ### All shapes -/

/-- No value of the shape is a whole form. -/
def Inner : Shape → Prop
  | .list item => Inner item
  | .record r => r ≠ .form
  | _ => True

instance : DecidablePred Inner := go
where
  go : (s : Shape) → Decidable (Inner s)
    | .list item => go item
    | .record r => inferInstanceAs (Decidable (r ≠ .form))
    | .text | .flag | .count | .number | .labels | .free => .isTrue trivial

/-- No record has a whole form under one of its keys. -/
theorem inner_of_lookup {r : Record} {key : String} {s : Shape} {n : Bool}
    (h : r.keys.lookup key = some (s, n)) : Inner s := by
  have all : ∀ e ∈ r.keys, Inner e.2.1 := by cases r <;> decide
  obtain ⟨before, after, same, -⟩ := List.lookup_eq_some_iff.mp h
  exact all (key, s, n) (same ▸ List.mem_append_right _ List.mem_cons_self)

/-- What has a shape is accepted by the schema of the shape. -/
theorem valid_of_fits {n : Bool} {s : Shape} {v : Json} (h : Fits n s v) (hs : Inner s) :
    Valid document (.obj (keywords n s)) v := by
  induction h with
  | null s =>
      cases s with
      | text => exact valid_text.mpr (.inr ⟨rfl, rfl⟩)
      | flag => exact valid_flag.mpr (.inr ⟨rfl, rfl⟩)
      | count => exact valid_count.mpr (.inr ⟨rfl, rfl⟩)
      | number => exact valid_number.mpr (.inr ⟨rfl, rfl⟩)
      | labels => exact valid_labels.mpr (.inr ⟨rfl, rfl⟩)
      | free => exact valid_free.mpr (.inr ⟨rfl, rfl⟩)
      | list item => exact valid_list.mpr (.inr ⟨rfl, rfl⟩)
      | record r => exact (valid_record hs).mpr (.inr ⟨rfl, rfl⟩)
  | text t => exact valid_text.mpr (.inl ⟨t, rfl⟩)
  | flag b => exact valid_flag.mpr (.inl ⟨b, rfl⟩)
  | count whole => exact valid_count.mpr (.inl whole)
  | number number => exact valid_number.mpr (.inl number)
  | labels texts => exact valid_labels.mpr (.inl ⟨_, rfl, texts⟩)
  | free es => exact valid_free.mpr (.inl ⟨es, rfl⟩)
  | list _ ih => exact valid_list.mpr (.inl ⟨_, rfl, fun w hw => ih w hw hs⟩)
  | record _ ih =>
      refine (valid_record hs).mpr (.inl ⟨_, rfl, fun e he s m known => ?_⟩)
      exact ih e he s m known (inner_of_lookup known)

/-- What the schema of a shape accepts has the shape. -/
theorem fits_of_valid {v : Json} {n : Bool} {s : Shape} (hs : Inner s)
    (h : Valid document (.obj (keywords n s)) v) : Fits n s v := by
  cases s with
  | text =>
      obtain ⟨t, rfl⟩ | ⟨rfl, rfl⟩ := valid_text.mp h
      · exact .text t
      · exact .null _
  | flag =>
      obtain ⟨b, rfl⟩ | ⟨rfl, rfl⟩ := valid_flag.mp h
      · exact .flag b
      · exact .null _
  | count =>
      obtain whole | ⟨rfl, rfl⟩ := valid_count.mp h
      · exact .count whole
      · exact .null _
  | number =>
      obtain number | ⟨rfl, rfl⟩ := valid_number.mp h
      · exact .number number
      · exact .null _
  | labels =>
      obtain ⟨es, rfl, texts⟩ | ⟨rfl, rfl⟩ := valid_labels.mp h
      · exact .labels texts
      · exact .null _
  | free =>
      obtain ⟨es, rfl⟩ | ⟨rfl, rfl⟩ := valid_free.mp h
      · exact .free es
      · exact .null _
  | list item =>
      obtain ⟨items, hv, each⟩ | ⟨rfl, rfl⟩ := valid_list.mp h
      · rw [hv]
        exact .list fun w hw =>
          have : sizeOf w < sizeOf v := hv ▸ sizeOf_element hw
          fits_of_valid hs (each w hw)
      · exact .null _
  | record r =>
      obtain ⟨es, hv, each⟩ | ⟨rfl, rfl⟩ := (valid_record hs).mp h
      · rw [hv]
        exact .record fun e he s m known =>
          have : sizeOf e.2 < sizeOf v := hv ▸ sizeOf_member he
          fits_of_valid (inner_of_lookup known) (each e he s m known)
      · exact .null _
termination_by sizeOf v

/-- A value is valid against the keywords for a shape just when it fits the shape. -/
theorem valid_iff_fits {n : Bool} {s : Shape} {v : Json} (hs : Inner s) :
    Valid document (.obj (keywords n s)) v ↔ Fits n s v :=
  ⟨fits_of_valid hs, fun h => valid_of_fits h hs⟩

/-- What the keywords of a record ask for is what has its shape. -/
theorem isRecord_iff_fits {r : Record} {v : Json} : IsRecord r v ↔ Fits false (.record r) v := by
  constructor
  · rintro ⟨es, rfl, each⟩
    exact .record fun e he s m known =>
      (valid_iff_fits (inner_of_lookup known)).mp (each e he s m known)
  · intro h
    cases h with
    | record each =>
        exact ⟨_, rfl, fun e he s m known =>
          (valid_iff_fits (inner_of_lookup known)).mpr (each e he s m known)⟩

/-- A value is valid against the schema of documents just when it has the shape of a form. -/
theorem valid_document_iff {v : Json} :
    Valid document document v ↔ Fits false (.record .form) v := by
  have sorted : (∀ k ∈ sortEntries documentKeywords, ∃ kind,
      Keyword.names.lookup k.1 = some kind ∧
        Meets document (declared (sortEntries documentKeywords)) kind k.2 v) ↔
          IsRecord .form v := by
    simp only [mem_sortEntries nodup_documentKeywords]
    rw [documentKeywords, List.forall_mem_append, meets_recordKeywords]
    simp only [List.forall_mem_cons]
    exact and_iff_right
      ⟨⟨.note, rfl, .note⟩, ⟨.note, rfl, .note⟩, ⟨.note, rfl, .note⟩, List.forall_mem_nil _⟩
  rw [← isRecord_iff_fits, ← sorted]
  nth_rewrite 2 [document_eq]
  exact valid_object

end EntryForm.Schema
