import Mathlib.Data.List.Forall2
import EntryForm.Command.Run
import EntryForm.Proofs.Command.Entries
import EntryForm.Proofs.Files.Selection

/-!
# Proofs — Command — what a validation tells

* `Run.entries`: what a validation tells of the documents that some places stand for.
* `Run.Shows es reply`: the replies in the two layouts show the entries, and exit as they say.  A
  reader of either gets the entries back, with every finding on each document.
* `Run.validate_tells`: a validation tells of every document, in the order of collection, and its
  replies show the entries.
-/

namespace EntryForm.Run
open Batch

variable {α : Type}

/-- What a validation tells of the documents that some places stand for. -/
def entries (files : Files.View α) (o : Options) (g : Glob) (places : List String) : List Entry :=
  (Files.collect g.accepts files.folder? places).map fun place =>
    (Outcome.of files.content o place).entry

/-- The words of the failure of a validation that tells some entries. -/
def complaint (es : List Entry) : String :=
  if es = [] then "no form documents found"
  else toString (es.countP fun e => !e.valid) ++ " of " ++ toString es.length ++
    " documents failed validation"

/-- The replies, one for each layout, show the entries and exit accordingly. -/
structure Shows (es : List Entry) (reply : Layout → Reply) : Prop where
  /-- The run succeeds just when there are entries and all of them are valid. -/
  code : ∀ l, (reply l).code = 0 ↔ es ≠ [] ∧ ∀ e ∈ es, e.valid = true
  /-- A run that fails says how many of the entries are not valid, or that there are none. -/
  failure : ∀ l, (reply l).code ≠ 0 →
    (reply l).code = 1 ∧ (reply l).err = "Error: " ++ Text.quoted (complaint es) ++ "\n"
  /-- The lines that are printed are blocks, and an entry is read from each, findings included. -/
  text : ∃ blocks, (reply .text).out = String.join (blocks.flatten.map (· ++ "\n")) ∧
    List.Forall₂ (fun e lines => Entry.ofLines? lines = some e) es blocks
  /-- The JSON values that are printed, if any, are such that an entry is read from each. -/
  json : ∃ values,
    (reply .json).out = (if values = [] then "" else (Json.arr values).pretty ++ "\n") ∧
    List.Forall₂ (fun e v => Entry.ofJson? v = some e) es values

/-- Whether a run succeeds does not depend on the layout. -/
theorem Shows.code_eq {es : List Entry} {reply : Layout → Reply} (h : Shows es reply)
    (l m : Layout) : (reply l).code = (reply m).code := by
  by_cases hl : (reply l).code = 0
  · rw [hl, (h.code m).mpr ((h.code l).mp hl)]
  · have hm : (reply m).code ≠ 0 := fun hm => hl ((h.code l).mpr ((h.code m).mp hm))
    rw [(h.failure l hl).1, (h.failure m hm).1]

section Replies

variable {files : Files.View α} {o : Options} {g : Glob} {places : List String}
  {environment : String → Option String} {v : Command.Validation}
  {content : String → Except Files.Fault ByteArray} {l : Layout}

/-- Places are handled one after the other, so their entries are put together. -/
theorem entries_append (P Q : List String) :
    entries files o g (P ++ Q) = entries files o g P ++ entries files o g Q := by
  rw [entries, Files.collect, List.flatMap_append, List.map_append]
  rfl

/-- Each entry tells of the document at its place, place by place. -/
theorem tells_entries : List.Forall₂ (Tells files.content o)
    (Files.collect g.accepts files.folder? places) (entries files o g places) := by
  rw [entries, List.forall₂_map_right_iff, List.forall₂_same]
  exact fun place _ => tells_iff.mpr rfl

/-- Without a document the run fails and shows nothing. -/
theorem validate_of_nil (ho : Settings.resolve v.ceiling v.lenient environment = .ok o)
    (hg : Glob.read v.pattern = .ok g) (h : Files.collect g.accepts files.folder? v.places = []) :
    validate files environment v = .failed .noDocuments := by
  rw [validate, ho, documents, hg, Except.map, h]

/-- With a document the run replies about all that were found. -/
theorem validate_of_ne (ho : Settings.resolve v.ceiling v.lenient environment = .ok o)
    (hg : Glob.read v.pattern = .ok g) (h : Files.collect g.accepts files.folder? v.places ≠ []) :
    validate files environment v =
      replyTo files.content v.layout o (Files.collect g.accepts files.folder? v.places) := by
  rw [validate, ho, documents, hg, Except.map]
  cases hfound : Files.collect g.accepts files.folder? v.places with
  | nil => exact absurd hfound h
  | cons place rest => rfl

/-! ### What a reply shows -/

/-- What a reply prints are its outcomes in the layout. -/
theorem out_replyTo : (replyTo content l o places).out =
    show_ l (places.map (Outcome.of content o)) := by
  rw [replyTo]
  split
  · rfl
  · rfl

/-- An entry is valid exactly if its outcome is. -/
theorem valid_entry (r : Outcome) : r.entry.valid = r.isValid := by
  obtain ⟨place, result⟩ := r
  cases result with
  | error e => rfl
  | ok report => rfl

/-- The documents that fail can be counted among the entries. -/
theorem countP_entries : (places.map (Outcome.of content o)).countP (fun r => !r.isValid) =
    (places.map fun place => (Outcome.of content o place).entry).countP fun e => !e.valid := by
  rw [List.countP_map, List.countP_map]
  refine List.countP_congr fun place _ => ?_
  simp only [Function.comp, valid_entry]

/-- A reply fails just when some of its entries are not valid, and then it counts them. -/
theorem replyTo_exit (h : places ≠ []) {es : List Entry}
    (hes : es = places.map fun place => (Outcome.of content o place).entry) :
    (∀ e ∈ es, e.valid = true) ∧ (replyTo content l o places).code = 0 ∨
    (¬ ∀ e ∈ es, e.valid = true) ∧ (replyTo content l o places).code = 1 ∧
      (replyTo content l o places).err = "Error: " ++ Text.quoted (complaint es) ++ "\n" := by
  have all : es.countP (fun e => !e.valid) = 0 ↔ ∀ e ∈ es, e.valid = true := by
    rw [List.countP_eq_zero]
    exact forall₂_congr fun e _ => by rw [Bool.not_eq_true', Bool.not_eq_false]
  have length : es.length = places.length := by rw [hes, List.length_map]
  have some_entry : es ≠ [] := fun he => h (List.length_eq_zero_iff.mp (by rw [← length, he]; rfl))
  rw [replyTo, countP_entries, ← hes, ← all, complaint, if_neg some_entry, length]
  split
  · next none_failed => exact .inl ⟨none_failed, rfl⟩
  · next failed => exact .inr ⟨failed, rfl, rfl⟩

/-- A run without documents shows no entries, and fails. -/
theorem shows_nothing : Shows [] fun _ => .failed .noDocuments where
  code _ := iff_of_false Nat.one_ne_zero fun h => h.1 rfl
  failure _ _ := ⟨rfl, rfl⟩
  text := ⟨[], rfl, .nil⟩
  json := ⟨[], rfl, .nil⟩

/-- A reply shows the entries of its places, in any layout, and exits by them. -/
theorem shows_replyTo (h : places ≠ []) :
    Shows (places.map fun place => (Outcome.of content o place).entry)
      fun l => replyTo content l o places := by
  have some_entry : places.map (fun place => (Outcome.of content o place).entry) ≠ [] :=
    fun he => h (List.map_eq_nil_iff.mp he)
  refine ⟨fun l => ?_, fun l hl => ?_, ?_, ?_⟩
  · rw [and_iff_right some_entry]
    obtain ⟨all, code⟩ | ⟨not_all, code, -⟩ := replyTo_exit (l := l) h rfl
    · exact iff_of_true code all
    · exact iff_of_false (by rw [code]; exact Nat.one_ne_zero) not_all
  · obtain ⟨-, code⟩ | ⟨-, failed⟩ := replyTo_exit (l := l) h rfl
    · exact absurd code hl
    · exact failed
  · refine ⟨places.map fun place => (Outcome.of content o place).lines, ?_, ?_⟩
    · rw [out_replyTo, show_, List.flatMap_map]
      rfl
    · rw [List.forall₂_map_left_iff, List.forall₂_map_right_iff, List.forall₂_same]
      exact fun place _ => ofLines?_lines (sound_of content o place)
  · refine ⟨places.map fun place => (Outcome.of content o place).toJson, ?_, ?_⟩
    · rw [out_replyTo, show_, List.map_map, if_neg fun he => h (List.map_eq_nil_iff.mp he)]
      rfl
    · rw [List.forall₂_map_left_iff, List.forall₂_map_right_iff, List.forall₂_same]
      exact fun place _ => ofJson?_toJson (Outcome.of content o place)

/-- Every document that is collected is told of once, in order, and what is told of it depends on
its content and the options alone.  So the entries for some places and then others are those for
the ones followed by those for the others.  The run succeeds just when there are entries and all
of them are valid, in either layout, and every entry, with its findings in order, can be read back
from both. -/
theorem validate_tells (files : Files.View α) (environment : String → Option String)
    (v : Command.Validation) {o : Options} {g : Glob}
    (ho : Settings.resolve v.ceiling v.lenient environment = .ok o)
    (hg : Glob.read v.pattern = .ok g) :
    List.Forall₂ (Tells files.content o) (Files.collect g.accepts files.folder? v.places)
      (entries files o g v.places) ∧
    (∀ (content : String → Except Files.Fault ByteArray) (place : String) (e e' : Entry),
      content place = files.content place → Tells content o place e →
        Tells files.content o place e' → e = e') ∧
    (∀ P Q, entries files o g (P ++ Q) = entries files o g P ++ entries files o g Q) ∧
    Shows (entries files o g v.places)
      (fun l => validate files environment { v with layout := l }) ∧
    ∀ l m, (validate files environment { v with layout := l }).code =
      (validate files environment { v with layout := m }).code := by
  have shows : Shows (entries files o g v.places)
      fun l => validate files environment { v with layout := l } := by
    by_cases h : Files.collect g.accepts files.folder? v.places = []
    · have same (l : Layout) :
          validate files environment { v with layout := l } = .failed .noDocuments :=
        validate_of_nil (v := { v with layout := l }) ho hg h
      simp only [same]
      rw [entries, h]
      exact shows_nothing
    · have same (l : Layout) : validate files environment { v with layout := l } =
          replyTo files.content l o (Files.collect g.accepts files.folder? v.places) :=
        validate_of_ne (v := { v with layout := l }) ho hg h
      simp only [same]
      exact shows_replyTo h
  refine ⟨tells_entries, fun content place e e' hsame he he' => ?_, entries_append, shows,
    shows.code_eq⟩
  rw [he.eq_entry, he'.eq_entry, outcome_congr hsame]

/-- One file is missing, and the other has a form without an identifier, a title, a version and
pages: either layout tells of both and of the four violations. -/
theorem validate_tells_missing :
    let files : Files.View Unit :=
      ⟨fun _ => none, fun place => if place = "a.json" then .ok "{}".toUTF8 else .error .notFound⟩
    let v : Command.Validation := { places := ["a.json", "b.yml"] }
    let g : Glob := .ending (Format.extensions.map String.toList)
    Settings.resolve v.ceiling v.lenient (fun _ => none) = .ok {} ∧ Glob.read v.pattern = .ok g ∧
      List.Forall₂ (Tells files.content {}) ["a.json", "b.yml"] (entries files {} g v.places) ∧
      (entries files {} g v.places).map (fun e => e.findings.length) = [4, 0] ∧
      Shows (entries files {} g v.places)
        (fun l => validate files (fun _ => none) { v with layout := l }) ∧
      (validate files (fun _ => none) v).code = 1 ∧
      (validate files (fun _ => none) v).err =
        "Error: " ++ Text.quoted "2 of 2 documents failed validation" ++ "\n" := by
  intro files v g
  obtain ⟨each, -, -, shows, -⟩ := validate_tells files (fun _ => none) v (o := {}) (g := g) rfl
    Command.read_defaultPattern
  have findings : (entries files {} g v.places).map (fun e => e.findings.length) = [4, 0] := by
    decide +kernel
  have bad : ¬ ∀ e ∈ entries files {} g v.places, e.valid = true := by decide +kernel
  have words : complaint (entries files {} g v.places) = "2 of 2 documents failed validation" := by
    decide +kernel
  obtain ⟨code, err⟩ := shows.failure .text fun zero => bad ((shows.code .text).mp zero).2
  exact ⟨rfl, Command.read_defaultPattern, each, findings, shows, code, err.trans (by rw [words])⟩

end Replies

end EntryForm.Run
