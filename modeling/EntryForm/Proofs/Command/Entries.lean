import Mathlib.Data.List.Forall2
import EntryForm.Command.Batch
import EntryForm.Proofs.Rules.Once

/-!
# Proofs — Command — what is told of a document

* `Batch.Tells content o place e`: the entry says of the document at the place why it could not be
  read, or what the report on its form says.  It depends on nothing but the content at the place.
* `Finding.ofLine?`, `Batch.Entry.ofLines?`: readers of the lines that are printed.  The path of a
  finding is what stands in front of the first colon, its kind what the last brackets hold, and
  its message what is between them.
* `Form.colon_notMem_path`: no path of a finding on a form holds a colon, so its line is read
  back.
* `Finding.ofJson`, `Batch.Entry.ofJson?`: readers of the JSON values that are printed.
* `Batch.ofLines?_lines`, `Batch.ofJson?_toJson`: either layout says all of an entry.
-/

namespace EntryForm

/-! ### Paths without colons -/

/-- No key of a record has a colon. -/
theorem Wire.Record.colon_notMem_of_lookup {r : Record} {key : String} {e : Shape × Bool}
    (h : r.keys.lookup key = some e) : ':' ∉ key.toList := by
  have names : ∀ name ∈ r.keys.map Prod.fst, ':' ∉ name.toList := by cases r <;> decide
  obtain ⟨entry, hentry, same⟩ := List.lookup_isSome_iff.mp (Option.isSome_of_eq_some h)
  exact names key (List.mem_map.mpr ⟨entry, hentry, (beq_iff_eq.mp same).symm⟩)

/-- The text of an index has no colon. -/
theorem Step.colon_notMem_index (i : Nat) : ':' ∉ (Step.index i).text := by
  rw [text, List.mem_cons, List.mem_append, List.mem_singleton]
  rintro (bracket | digit | bracket)
  · exact absurd bracket (by decide)
  · exact absurd (Text.isDigit_of_mem_toString digit) (by decide)
  · exact absurd bracket (by decide)

/-- The text of a key has no colon unless the key has one. -/
theorem Step.colon_notMem_field {name : String} (h : ':' ∉ name.toList) :
    ':' ∉ (Step.field name).text := by
  rw [text, List.mem_cons]
  rintro (dot | hname)
  · exact absurd dot (by decide)
  · exact h hname

/-- Steps into a document are keys of records and positions in lists, none of which has a colon. -/
theorem Wire.Points.colon_notMem {kind : Violation.Kind} {s : Shape} {j : Json} {steps : List Step}
    (h : Points kind s j steps) : ∀ t ∈ steps, ':' ∉ t.text := by
  induction h with
  | here => nofun
  | element _ _ ih => exact List.forall_mem_cons.mpr ⟨Step.colon_notMem_index _, ih⟩
  | value known _ _ ih =>
      have key := Step.colon_notMem_field (Record.colon_notMem_of_lookup known)
      exact List.forall_mem_cons.mpr ⟨key, ih⟩
  | absent known =>
      exact List.forall_mem_singleton.mpr
        (Step.colon_notMem_field (Record.colon_notMem_of_lookup known))

/-- The path of a finding on a form ends at the first colon of its line. -/
theorem Form.colon_notMem_path {o : Options} {f : Form} :
    ∀ g ∈ (f.report o).findings, ':' ∉ g.path.toList := by
  intro g hg colon
  obtain ⟨v, hv, rfl⟩ := List.mem_map.mp hg
  obtain ⟨steps, -, hsteps, hpoints⟩ := leads_of_mem hv
  rw [Path.root, List.nil_append] at hsteps
  -- the text of the path is that of its steps, but for the dot in front
  have text : ':' ∈ v.path.steps.flatMap Step.text :=
    Path.dot_render (plain_of_mem hv) ▸ List.mem_cons_of_mem '.' colon
  obtain ⟨t, ht, colon⟩ := List.mem_flatMap.mp (hsteps ▸ text)
  exact hpoints.colon_notMem t ht colon

/-! ### Findings -/

/-- What stands in front of the first such character and a blank, and what stands behind them. -/
def cut? (c : Char) (text : List Char) : Option (List Char × List Char) :=
  match text.dropWhile (· ≠ c) with
  | _ :: ' ' :: rest => some (text.takeWhile (· ≠ c), rest)
  | _ => none

/-- A text is cut at a character that does not occur before and that a blank follows. -/
theorem cut?_append {c : Char} {before : List Char} (h : c ∉ before) (rest : List Char) :
    cut? c (before ++ c :: ' ' :: rest) = some (before, rest) := by
  have all : ∀ d ∈ before, (d ≠ c : Bool) = true := by
    intro d hd
    rw [decide_eq_true_eq]
    rintro rfl
    exact h hd
  rw [cut?, List.dropWhile_append_of_pos all, List.takeWhile_append_of_pos all,
    List.dropWhile_cons_of_neg (by simp), List.takeWhile_cons_of_neg (by simp), List.append_nil]
  rfl

namespace Finding

/-- Reads the line of a finding.  The kind is found from the end of the line, because a message
may hold brackets of its own. -/
def ofLine? (line : String) : Option Finding := do
  let (path, shown) ← cut? ':' line.toList
  match shown.reverse with
  | ']' :: backwards =>
      let (name, message) ← cut? '[' backwards
      let kind ← (Wire.readName Violation.Kind.name Violation.Kind.all
        (String.ofList name.reverse)).toOption
      some ⟨String.ofList path, kind, String.ofList message.reverse⟩
  | _ => none

/-- A kind is read back from its name. -/
theorem readName_name (kind : Violation.Kind) :
    Wire.readName Violation.Kind.name Violation.Kind.all kind.name = .ok kind := by
  cases kind <;> rfl

/-- The name of a kind holds no bracket, so the last one in a line opens the kind. -/
theorem bracket_notMem_name (kind : Violation.Kind) : '[' ∉ kind.name.toList := by
  cases kind <;> decide

/-- The characters of a line, part by part. -/
theorem toList_line (f : Finding) : f.line.toList =
    f.path.toList ++ ':' :: ' ' :: (f.message.toList ++ " [".toList ++ f.kind.name.toList ++
      [']']) := by
  simp [line]

/-- A line says path, kind and message, whatever the message holds. -/
theorem ofLine?_line {f : Finding} (h : ':' ∉ f.path.toList) : ofLine? f.line = some f := by
  have name : '[' ∉ f.kind.name.toList.reverse :=
    fun hmem => bracket_notMem_name f.kind (List.mem_reverse.mp hmem)
  have backwards : (f.message.toList ++ " [".toList ++ f.kind.name.toList ++ [']']).reverse =
      ']' :: (f.kind.name.toList.reverse ++ '[' :: ' ' :: f.message.toList.reverse) := by
    simp
  rw [ofLine?, toList_line, cut?_append h]
  simp only [Option.bind_eq_bind, Option.bind_some, backwards, cut?_append name,
    List.reverse_reverse, String.ofList_toList, readName_name]
  rfl

/-- A finding is read back from its JSON. -/
theorem ofJson_toJson (f : Finding) : ofJson f.toJson = .ok f := by
  obtain ⟨path, kind, message⟩ := f
  cases kind <;> rfl

/-- Findings are read back from their JSON, in their order. -/
theorem readAll_toJson (fs : List Finding) :
    Wire.readAll ofJson (.arr (fs.map toJson)) = .ok fs := by
  rw [Wire.readAll]
  induction fs with
  | nil => rfl
  | cons f rest ih =>
      rw [List.map_cons, List.mapM_cons, ofJson_toJson, ih]
      rfl

end Finding

end EntryForm

namespace EntryForm.Batch

/-! ### Entries -/

/-- What is told of a document. -/
structure Entry where
  place : String
  valid : Bool
  error : Option String
  findings : List Finding

/-- The entry tells of the document at the place: an error for one that cannot be read, and else
what the report on its form says. -/
inductive Tells (content : String → Except Files.Fault ByteArray) (o : Options) (place : String) :
    Entry → Prop where
  | unsupported (hformat : Format.ofPlace? place = none) :
      Tells content o place ⟨place, false, some (LoadError.unsupported place).message, []⟩
  | unreadable {format : Format} {f : Files.Fault} (hformat : Format.ofPlace? place = some format)
      (hcontent : content place = .error f) :
      Tells content o place ⟨place, false, some (LoadError.unreadable place f).message, []⟩
  | notText {format : Format} {bytes : ByteArray} (hformat : Format.ofPlace? place = some format)
      (hcontent : content place = .ok bytes) (htext : String.fromUTF8? bytes = none) :
      Tells content o place ⟨place, false, some (LoadError.unreadable place .notText).message, []⟩
  | undecodable {format : Format} {bytes : ByteArray} {text : String} {e : ReadError}
      (hformat : Format.ofPlace? place = some format) (hcontent : content place = .ok bytes)
      (htext : String.fromUTF8? bytes = some text) (hform : Form.read format text = .error e) :
      Tells content o place ⟨place, false, some e.message, []⟩
  | checked {format : Format} {bytes : ByteArray} {text : String} {f : Form}
      (hformat : Format.ofPlace? place = some format) (hcontent : content place = .ok bytes)
      (htext : String.fromUTF8? bytes = some text) (hform : Form.read format text = .ok f) :
      Tells content o place ⟨place, (f.report o).valid, none, (f.report o).findings⟩

/-- What is told of the document that an outcome is about. -/
def Outcome.entry (r : Outcome) : Entry :=
  match r.result with
  | .error e => ⟨r.place, false, some e.message, []⟩
  | .ok report => ⟨r.place, report.valid, none, report.findings⟩

section Telling

variable {content other : String → Except Files.Fault ByteArray} {o : Options} {place : String}

/-- There is an entry that tells of any place. -/
theorem exists_tells (content : String → Except Files.Fault ByteArray) (o : Options)
    (place : String) : ∃ e, Tells content o place e := by
  cases hformat : Format.ofPlace? place with
  | none => exact ⟨_, .unsupported hformat⟩
  | some format =>
      cases hcontent : content place with
      | error f => exact ⟨_, .unreadable hformat hcontent⟩
      | ok bytes =>
          cases htext : String.fromUTF8? bytes with
          | none => exact ⟨_, .notText hformat hcontent htext⟩
          | some text =>
              cases hform : Form.read format text with
              | error e => exact ⟨_, .undecodable hformat hcontent htext hform⟩
              | ok f => exact ⟨_, .checked hformat hcontent htext hform⟩

/-- There is one thing to tell of a document, and its outcome tells it. -/
theorem Tells.eq_entry {e : Entry} (h : Tells content o place e) :
    e = (Outcome.of content o place).entry := by
  rw [Outcome.of, Form.load, documentText]
  cases h with
  | unsupported hformat =>
      rw [hformat]
      rfl
  | unreadable hformat hcontent =>
      rw [hformat, hcontent]
      rfl
  | notText hformat hcontent htext =>
      simp only [hformat, hcontent, htext]
      rfl
  | undecodable hformat hcontent htext hform =>
      simp only [hformat, hcontent, htext, bind, Except.bind, hform]
      rfl
  | checked hformat hcontent htext hform =>
      simp only [hformat, hcontent, htext, bind, Except.bind, hform]
      rfl

/-- An entry tells of a place exactly if it is that of the outcome there. -/
theorem tells_iff {e : Entry} :
    Tells content o place e ↔ e = (Outcome.of content o place).entry := by
  refine ⟨Tells.eq_entry, ?_⟩
  rintro rfl
  obtain ⟨e, he⟩ := exists_tells content o place
  rwa [← he.eq_entry]

/-- Only the content at the place matters. -/
theorem outcome_congr (h : content place = other place) :
    Outcome.of content o place = Outcome.of other o place := by
  rw [Outcome.of, Outcome.of, Form.load, Form.load, documentText, documentText, h]

end Telling

/-! ### What is shown in lines -/

/-- What stands in front of an ending. -/
def stem? (ending line : String) : Option String :=
  (line.toList.dropSuffix? ending.toList).map String.ofList

/-- What stands behind the two blanks of an indented line. -/
def unindented? (line : String) : Option String :=
  (line.toList.dropPrefix? "  ".toList).map String.ofList

/-- The end of the first line about a document with so many violations. -/
def invalidEnding (violations : Nat) : String :=
  ": invalid (" ++ toString violations ++ " violation" ++
    (if violations = 1 then "" else "s") ++ ")"

/-- Reads the lines about a document.  The first has its place and the verdict, with the number of
the violations if any follow, one a line. -/
def Entry.ofLines? : List String → Option Entry
  | [] => none
  | [verdict] => do
      let place ← stem? ": valid" verdict
      some ⟨place, true, none, []⟩
  | verdict :: first :: rest =>
      match stem? ": unreadable" verdict, rest with
      | some place, [] => do
          let why ← unindented? first
          some ⟨place, false, some why, []⟩
      | _, _ => do
          let place ← stem? (invalidEnding (rest.length + 1)) verdict
          let findings ← (first :: rest).mapM fun line => (unindented? line).bind Finding.ofLine?
          some ⟨place, false, none, findings⟩

/-- The ending of a text is taken off again. -/
theorem stem?_append (place ending : String) : stem? ending (place ++ ending) = some place := by
  have found : (place ++ ending).toList.dropSuffix? ending.toList = some place.toList := by
    rw [String.toList_append]
    exact List.dropSuffix?_eq_some_iff.mpr ⟨_, rfl, BEq.rfl⟩
  rw [stem?, found, Option.map_some, String.ofList_toList]

/-- The indentation of a line is taken off again. -/
theorem unindented?_append (line : String) : unindented? ("  " ++ line) = some line := by
  rw [unindented?, String.toList_append, List.dropPrefix?_append_of_beq _ BEq.rfl, Option.map_some,
    String.ofList_toList]

/-- The verdict on a document with violations does not say that it cannot be read. -/
theorem stem?_unreadable_invalid (place : String) (violations : Nat) :
    stem? ": unreadable" (place ++ invalidEnding violations) = none := by
  rw [stem?, Option.map_eq_none_iff, Option.eq_none_iff_forall_ne_some]
  intro before h
  obtain ⟨ending, same, he⟩ := List.dropSuffix?_eq_some_iff.mp h
  obtain rfl := eq_of_beq he
  -- the last characters of the verdicts differ
  have last := congrArg List.getLast? same
  rw [invalidEnding, ← String.append_assoc, String.toList_append, List.getLast?_append] at last
  simp at last

/-- The number of findings stands in the ending as the printer writes it. -/
theorem invalidEnding_eq (violations : Nat) :
    ": invalid (" ++ Outcome.countText violations ++ ")" = invalidEnding violations := by
  rw [invalidEnding, Outcome.countText]
  split <;> simp [String.append_assoc]

/-- A report says that a form is valid just when it lists no violations, and the path of each of
them has no colon. -/
def Outcome.Sound (r : Outcome) : Prop :=
  ∀ report, r.result = .ok report →
    report.valid = report.findings.isEmpty ∧ ∀ g ∈ report.findings, ':' ∉ g.path.toList

/-- Outcomes of documents are sound. -/
theorem sound_of (content : String → Except Files.Fault ByteArray) (o : Options)
    (place : String) : (Outcome.of content o place).Sound := by
  intro report h
  rw [Outcome.of] at h
  cases hload : Form.load content place with
  | error e =>
      rw [hload] at h
      cases h
  | ok f =>
      rw [hload] at h
      obtain rfl := Except.ok.inj h
      exact ⟨List.isEmpty_map.symm, f.colon_notMem_path⟩

/-- The lines of findings are read back, if no path among them has a colon. -/
theorem mapM_ofLine? {fs : List Finding} (h : ∀ g ∈ fs, ':' ∉ g.path.toList) :
    (fs.map fun g => "  " ++ g.line).mapM (fun line => (unindented? line).bind Finding.ofLine?) =
      some fs := by
  induction fs with
  | nil => rfl
  | cons f rest ih =>
      obtain ⟨hf, hrest⟩ := List.forall_mem_cons.mp h
      rw [List.map_cons, List.mapM_cons, unindented?_append, Option.bind_some,
        Finding.ofLine?_line hf, ih hrest]
      rfl

section Lines

variable (place : String)

/-- The line of a valid document is read back. -/
theorem ofLines?_valid :
    Entry.ofLines? [place ++ ": valid"] = some ⟨place, true, none, []⟩ := by
  rw [Entry.ofLines?, stem?_append]
  rfl

/-- The lines of a document that cannot be read are read back, with the reason. -/
theorem ofLines?_unreadable (why : String) :
    Entry.ofLines? [place ++ ": unreadable", "  " ++ why] = some ⟨place, false, some why, []⟩ := by
  simp only [Entry.ofLines?, stem?_append, unindented?_append, Option.bind_eq_bind,
    Option.bind_some]

/-- The lines of an invalid document are read back, with all its findings. -/
theorem ofLines?_invalid {first : Finding} {rest : List Finding}
    (h : ∀ g ∈ first :: rest, ':' ∉ g.path.toList) :
    Entry.ofLines? ((place ++ invalidEnding (rest.length + 1)) ::
      (first :: rest).map fun g => "  " ++ g.line) = some ⟨place, false, none, first :: rest⟩ := by
  have findings := mapM_ofLine? h
  rw [List.map_cons] at findings ⊢
  simp only [Entry.ofLines?, stem?_unreadable_invalid, List.length_map, stem?_append,
    Option.bind_eq_bind, Option.bind_some, findings]

end Lines

/-- The lines about a document say all that is told of it. -/
theorem ofLines?_lines {r : Outcome} (h : r.Sound) : Entry.ofLines? r.lines = some r.entry := by
  obtain ⟨place, result⟩ := r
  cases result with
  | error e => exact ofLines?_unreadable place e.message
  | ok report =>
      obtain ⟨valid, findings⟩ := report
      obtain ⟨hvalid, colonless⟩ := h _ rfl
      obtain rfl : valid = findings.isEmpty := hvalid
      cases findings with
      | nil => exact ofLines?_valid place
      | cons f rest =>
          have verdict : place ++ ": invalid (" ++ Outcome.countText (rest.length + 1) ++ ")" =
              place ++ invalidEnding (rest.length + 1) := by
            rw [← invalidEnding_eq, String.append_assoc, String.append_assoc, String.append_assoc]
          have read := ofLines?_invalid place colonless
          rw [← verdict] at read
          exact read

/-! ### What is shown in JSON -/

/-- Reads the JSON value about a document. -/
def Entry.ofJson? (v : Json) : Option Entry := do
  let place ← (Wire.readText (← v.get? "path")).toOption
  let valid ← (Wire.readFlag (← v.get? "valid")).toOption
  let error ← match v.get? "error" with
    | none => some none
    | some why => (Wire.readText why).toOption.map some
  let findings ← (Wire.readAll Finding.ofJson (← v.get? "violations")).toOption
  return ⟨place, valid, error, findings⟩

/-- The entry of an outcome is read back from its JSON. -/
theorem ofJson?_toJson (r : Outcome) : Entry.ofJson? r.toJson = some r.entry := by
  obtain ⟨place, result⟩ := r
  cases result with
  | error e => rfl
  | ok report =>
      have findings := Finding.readAll_toJson report.findings
      have found : (Outcome.toJson ⟨place, .ok report⟩).get? "violations" =
          some (.arr (report.findings.map Finding.toJson)) := rfl
      rw [Entry.ofJson?, found]
      simp only [Option.bind_eq_bind, Option.bind_some, findings]
      rfl

end EntryForm.Batch
