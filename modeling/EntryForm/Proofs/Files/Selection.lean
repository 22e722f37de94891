import Mathlib.Data.List.TakeWhile
import EntryForm.Command.Run
import EntryForm.Proofs.Glob.Matching

/-!
# Proofs — Files — selection

Which files of a folder are validated, and which of them can be read.

* `fileName?_of_ends`: a place that ends in a name after a slash has this name.
* `Command.accepts_defaultPattern`: the default pattern accepts the places that end in a dot and
  one of the extensions, in small letters.
* `extension?_eq_some_iff`, `Format.isSome_ofPlace?_iff`: a place has a format if its name has one
  of the extensions, in any letters, after something else.
* `Run.documents_defaultPattern`: so selection and support agree for all names but two sorts.
-/

namespace EntryForm

namespace Files

/-- A name that a file can have. -/
structure IsName (name : String) : Prop where
  ne_empty : name ≠ ""
  ne_here : name ≠ "."
  ne_up : name ≠ ".."
  no_slash : '/' ∉ name.toList

instance (name : String) : Decidable (IsName name) :=
  decidable_of_iff (name ≠ "" ∧ name ≠ "." ∧ name ≠ ".." ∧ '/' ∉ name.toList)
    ⟨fun ⟨h₁, h₂, h₃, h₄⟩ => ⟨h₁, h₂, h₃, h₄⟩, fun ⟨h₁, h₂, h₃, h₄⟩ => ⟨h₁, h₂, h₃, h₄⟩⟩

/-! ### The name of a place -/

/-- The place ends in the name, which stands alone or after a slash. -/
def Ends (place name : String) : Prop :=
  ∃ before, place.toList = before ++ name.toList ∧ ∀ c ∈ before.getLast?, c = '/'

/-- A name is a part of a path of its own. -/
theorem partOf?_of_isName {name : String} (h : IsName name) :
    partOf? name.toList = some (.name name) := by
  have single (text : String) (hne : name ≠ text) : name.toList ≠ text.toList := fun he =>
    hne (String.ext he)
  unfold partOf?
  split
  · next he => exact absurd he (single "" h.ne_empty)
  · next he => exact absurd he (single "." h.ne_here)
  · next he => exact absurd he (single ".." h.ne_up)
  · rw [String.ofList_toList]

/-- The file name of a place is the name that it ends in. -/
theorem fileName?_of_ends {place name : String} (h : Ends place name) (hname : IsName name) :
    fileName? place = some name := by
  obtain ⟨before, htext, hslash⟩ := h
  have last : (Text.pieces '/' place.toList).getLast? = some name.toList := by
    rw [htext]
    cases hb : before.getLast? with
    | none =>
        obtain rfl := List.getLast?_eq_none_iff.mp hb
        rw [List.nil_append, Text.pieces_of_not_mem hname.no_slash]
        rfl
    | some c =>
        obtain ⟨front, rfl⟩ := List.getLast?_eq_some_iff.mp hb
        obtain rfl := hslash c hb
        rw [List.append_assoc, List.singleton_append, Text.pieces_append,
          Text.pieces_of_not_mem hname.no_slash, List.getLast?_concat]
  obtain ⟨others, hpieces⟩ := List.getLast?_eq_some_iff.mp last
  rw [fileName?, parts, hpieces, List.filterMap_append, List.filterMap_cons,
    partOf?_of_isName hname, List.filterMap_nil, ← List.append_assoc, List.getLast?_concat]

/-- A joined place ends in the name joined. -/
theorem ends_join {place name : String} : Ends (join place name) name := by
  unfold join
  split
  · next h =>
    refine ⟨place.toList, by simp, fun c hc => ?_⟩
    obtain h | h := Bool.or_eq_true_iff.mp h
    · rw [String.isEmpty_iff.mp h] at hc
      cases hc
    · rw [endsInSlash, Option.mem_def.mp hc] at h
      exact Option.some.inj (beq_iff_eq.mp h)
  · exact ⟨place.toList ++ ['/'], by simp, by simp⟩

/-- A place to which names are joined one by one ends in the last of them. -/
theorem ends_foldl_join (place : String) {names : List String} {name : String}
    (h : names.getLast? = some name) : Ends (names.foldl join place) name := by
  obtain ⟨folders, rfl⟩ := List.getLast?_eq_some_iff.mp h
  rw [List.foldl_append]
  exact ends_join

/-- The place of a file below a folder ends in its name, too. -/
theorem ends_intercalate {names : List String} {name : String} (h : names.getLast? = some name) :
    Ends ("/".intercalate names) name := by
  have slashes : "/".toList = ['/'] := rfl
  rw [Ends, String.toList_intercalate, slashes]
  induction names with
  | nil => cases h
  | cons first rest ih =>
      cases rest with
      | nil =>
          obtain rfl := Option.some.inj h
          exact ⟨[], by simp [List.intercalate], nofun⟩
      | cons second rest =>
          obtain ⟨before, htext, hslash⟩ := ih (by rwa [List.getLast?_cons_cons] at h)
          refine ⟨first.toList ++ '/' :: before, ?_, ?_⟩
          · have step : ['/'].intercalate ((first :: second :: rest).map String.toList) =
                first.toList ++ '/' :: ['/'].intercalate ((second :: rest).map String.toList) := by
              simp [List.intercalate]
            rw [step, htext, List.append_assoc, List.cons_append]
          · cases before with
            | nil => simp
            | cons c before => simpa using hslash

/-! ### Extensions -/

/-- The extension of a place is what follows the last dot of its name, but for a dot in front. -/
theorem extension?_eq_some_iff {place name e : String} (h : fileName? place = some name) :
    extension? place = some e ↔
      '.' ∉ e.toList ∧ ∃ stem, stem ≠ "" ∧ name = stem ++ "." ++ e := by
  simp only [extension?, h]
  constructor
  · intro he
    have whole := List.takeWhile_append_dropWhile (p := fun c => decide (c ≠ '.'))
      (l := name.toList.reverse)
    have first := List.head?_dropWhile_not (fun c => decide (c ≠ '.')) name.toList.reverse
    have undotted : ∀ c ∈ name.toList.reverse.takeWhile (fun c => decide (c ≠ '.')), c ≠ '.' :=
      fun c hc => by simpa using List.mem_takeWhile_imp hc
    generalize name.toList.reverse.takeWhile (fun c => decide (c ≠ '.')) = tail at he whole undotted
    generalize name.toList.reverse.dropWhile (fun c => decide (c ≠ '.')) = left at he whole first
    match left with
    | [] => cases he
    | [_] => cases he
    | dot :: c :: stem =>
        obtain rfl := Option.some.inj he
        obtain rfl : dot = '.' := not_not.mp (of_decide_eq_false first)
        refine ⟨fun hdot => ?_, String.ofList (c :: stem).reverse, by simp, String.ext ?_⟩
        · rw [String.toList_ofList, List.mem_reverse] at hdot
          exact undotted _ hdot rfl
        · rw [← List.reverse_inj, ← whole]
          simp
  · rintro ⟨hdot, stem, hstem, rfl⟩
    have undotted : ∀ c ∈ e.toList.reverse, decide (c ≠ '.') = true := fun c hc =>
      decide_eq_true fun hc' => hdot (hc' ▸ List.mem_reverse.mp hc)
    have back : (stem ++ "." ++ e).toList.reverse =
        e.toList.reverse ++ '.' :: stem.toList.reverse := by simp
    rw [back, List.dropWhile_append_of_pos undotted, List.takeWhile_append_of_pos undotted]
    cases hrev : stem.toList.reverse with
    | nil =>
        exact absurd (String.toList_eq_nil_iff.mp (List.reverse_eq_nil_iff.mp hrev)) hstem
    | cons c rest => simp

end Files

/-! ### Selection and support -/

/-- The extensions of form documents. -/
def Format.extensions : List String := ["json", "yaml", "yml"]

/-- An extension is supported exactly if it is listed, case aside. -/
theorem Format.isSome_ofExtension?_iff {e : String} :
    (ofExtension? e).isSome ↔ Text.lowerAscii e ∈ extensions := by
  unfold ofExtension? extensions
  split <;> simp_all

/-- The default pattern is the glob for endings in one of the extensions. -/
theorem Command.read_defaultPattern :
    Glob.read defaultPattern = .ok (.ending (Format.extensions.map String.toList)) := rfl

open Files

/-- The name has one of the extensions, after something else. -/
def Format.Supports (name : String) : Prop :=
  ∃ stem e, stem ≠ "" ∧ name = stem ++ "." ++ e ∧ Text.lowerAscii e ∈ extensions

/-- No extension has a dot in it, in whatever letters. -/
theorem Format.no_dot_of_lowerAscii {e : String} (h : Text.lowerAscii e ∈ extensions) :
    '.' ∉ e.toList := by
  intro hdot
  have dotted : '.' ∈ (Text.lowerAscii e).toList := by
    rw [Text.lowerAscii, String.toList_ofList]
    exact List.mem_map.mpr ⟨'.', hdot, rfl⟩
  have plain : ∀ e ∈ extensions, '.' ∉ e.toList := by decide
  exact plain _ h dotted

/-- Whether a place is supported depends on its file name alone. -/
theorem Format.isSome_ofPlace?_iff {place name : String} (h : fileName? place = some name) :
    (ofPlace? place).isSome ↔ Supports name := by
  rw [ofPlace?, Option.isSome_bind, Option.any_eq_true]
  simp only [isSome_ofExtension?_iff, extension?_eq_some_iff h]
  constructor
  · rintro ⟨e, ⟨-, stem, hstem, hname⟩, he⟩
    exact ⟨stem, e, hstem, hname, he⟩
  · rintro ⟨stem, e, hstem, hname, he⟩
    exact ⟨e, ⟨no_dot_of_lowerAscii he, stem, hstem, hname⟩, he⟩

/-- The name ends in a dot and one of the extensions, in small letters. -/
def Format.Selects (name : String) : Prop := ∃ stem, ∃ e ∈ extensions, name = stem ++ "." ++ e

/-- A word without slashes that ends a place ends its name. -/
theorem Files.Ends.suffix_iff {place name : String} (h : Ends place name) {word : List Char}
    (hword : '/' ∉ word) : word <:+ place.toList ↔ word <:+ name.toList := by
  obtain ⟨before, htext, hslash⟩ := h
  have name_suffix : name.toList <:+ place.toList := ⟨before, htext.symm⟩
  refine ⟨fun hplace => ?_, fun hname => hname.trans name_suffix⟩
  obtain hshort | hlong := Nat.le_total word.length name.toList.length
  · exact List.suffix_of_suffix_length_le hplace name_suffix hshort
  · cases hb : before.getLast? with
    | none =>
        obtain rfl := List.getLast?_eq_none_iff.mp hb
        rw [htext, List.nil_append] at hplace
        exact hplace
    | some c =>
        obtain ⟨front, rfl⟩ := List.getLast?_eq_some_iff.mp hb
        obtain rfl := hslash c hb
        have slash_suffix : '/' :: name.toList <:+ place.toList :=
          ⟨front, by rw [htext, List.append_assoc, List.singleton_append]⟩
        obtain hlt | heq := Nat.lt_or_eq_of_le hlong
        · -- a longer word would have the slash in it
          have inside := List.suffix_of_suffix_length_le slash_suffix hplace hlt
          exact absurd (inside.subset List.mem_cons_self) hword
        · exact List.suffix_of_suffix_length_le hplace name_suffix (Nat.le_of_eq heq.symm)

/-- The default pattern accepts the places whose names it selects. -/
theorem Command.accepts_defaultPattern {g : Glob} (hg : Glob.read defaultPattern = .ok g)
    {place name : String} (hends : Ends place name) :
    g.accepts place ↔ Format.Selects name := by
  obtain rfl := Except.ok.inj (read_defaultPattern.symm.trans hg)
  have words : ∀ e ∈ Format.extensions, e.toList ≠ [] ∧ '/' ∉ '.' :: e.toList ∧
      e.toList.all (·.val.toNat ≤ 127) = true := by decide
  have ascii : ∀ e ∈ Format.extensions, ∀ c ∈ e.toList, c.val.toNat ≤ 127 := fun e he c hc =>
    of_decide_eq_true (List.all_eq_true.mp (words e he).2.2 c hc)
  rw [Glob.accepts_ending (List.forall_mem_map.mpr fun e he => ⟨(words e he).1, ascii e he⟩)
    (by decide)]
  constructor
  · rintro ⟨_, hword, hending⟩
    obtain ⟨e, he, rfl⟩ := List.mem_map.mp hword
    obtain ⟨stem, hstem⟩ := (hends.suffix_iff (words e he).2.1).mp hending
    exact ⟨String.ofList stem, e, he, String.ext (by simp [← hstem])⟩
  · rintro ⟨stem, e, he, rfl⟩
    refine ⟨e.toList, List.mem_map_of_mem he, (hends.suffix_iff (words e he).2.1).mpr ?_⟩
    exact ⟨stem.toList, by simp⟩

/-! ### Where they differ -/

namespace Format

/-- The name is one of the extensions with its dot, and nothing else. -/
def IsBare (name : String) : Prop := ∃ e ∈ extensions, name = "." ++ e

/-- The name has one of the extensions, but not in small letters. -/
def HasCapitals (name : String) : Prop :=
  ∃ stem e, stem ≠ "" ∧ name = stem ++ "." ++ e ∧ Text.lowerAscii e ∈ extensions ∧ e ∉ extensions

/-- The extensions are written in small letters. -/
theorem lowerAscii_mem {e : String} (he : e ∈ extensions) : Text.lowerAscii e ∈ extensions := by
  have small : ∀ e ∈ extensions, Text.lowerAscii e ∈ extensions := by decide
  exact small e he

variable {place name : String}

/-- A name that is an extension and nothing before it is not supported. -/
theorem not_supports_of_isBare (h : IsBare name) : ¬ Supports name := by
  obtain ⟨bare, hbare, rfl⟩ := h
  rintro ⟨stem, e, hstem, hname, -⟩
  have texts := congrArg String.toList hname
  simp only [String.toList_append, List.append_assoc] at texts
  cases hchars : stem.toList with
  | nil => exact hstem (String.toList_eq_nil_iff.mp hchars)
  | cons c rest =>
      rw [hchars, List.cons_append] at texts
      have dotted : '.' ∈ bare.toList := by
        rw [show bare.toList = rest ++ (".".toList ++ e.toList) from (List.cons.inj texts).2]
        simp
      exact no_dot_of_lowerAscii (lowerAscii_mem hbare) dotted

/-- A name with capitals in its extension is not selected. -/
theorem not_selects_of_hasCapitals (h : fileName? place = some name) (hname : HasCapitals name) :
    ¬ Selects name := by
  obtain ⟨stem, e, hstem, rfl, he, hcapital⟩ := hname
  rintro ⟨stem', e', he', hsame⟩
  -- a name has one extension, so it cannot be both in small letters and not
  by_cases hstem' : stem' = ""
  · subst hstem'
    exact not_supports_of_isBare ⟨e', he', hsame⟩ ⟨stem, e, hstem, rfl, he⟩
  · have first : extension? place = some e :=
      (extension?_eq_some_iff h).mpr ⟨no_dot_of_lowerAscii he, stem, hstem, rfl⟩
    have second : extension? place = some e' :=
      (extension?_eq_some_iff h).mpr
        ⟨no_dot_of_lowerAscii (lowerAscii_mem he'), stem', hstem', hsame⟩
    obtain rfl := Option.some.inj (first.symm.trans second)
    exact hcapital he'

/-- A name is selected exactly if it is supported, but where it is bare or has capitals. -/
theorem selects_iff_supports (h : fileName? place = some name) :
    (Selects name ↔ Supports name) ↔ ¬ IsBare name ∧ ¬ HasCapitals name := by
  constructor
  · intro same
    refine ⟨fun hbare => ?_, fun hcapitals => ?_⟩
    · obtain ⟨e, he, hname⟩ := hbare
      exact not_supports_of_isBare ⟨e, he, hname⟩ (same.mp ⟨"", e, he, hname⟩)
    · obtain ⟨stem, e, hstem, hname, he, -⟩ := id hcapitals
      exact not_selects_of_hasCapitals h hcapitals (same.mpr ⟨stem, e, hstem, hname, he⟩)
  · rintro ⟨hbare, hcapitals⟩
    constructor
    · rintro ⟨stem, e, he, hname⟩
      by_cases hstem : stem = ""
      · subst hstem
        exact absurd ⟨e, he, hname⟩ hbare
      · exact ⟨stem, e, hstem, hname, lowerAscii_mem he⟩
    · rintro ⟨stem, e, hstem, hname, he⟩
      by_cases hsmall : e ∈ extensions
      · exact ⟨stem, e, hsmall, hname⟩
      · exact absurd ⟨stem, e, hstem, hname, he, hsmall⟩ hcapitals

end Format

/-! ### Folders -/

/-- A folder with one file has that file only. -/
theorem Files.Tree.files_single {α : Type} (name : String) (content : α) :
    (Tree.folder [(name, .file content)]).files = [([name], content)] := by
  simp [files, filesByName, inOrder, under]

/-- A file of a folder is named. -/
theorem Files.ne_nil_of_mem_files {α : Type} {entries : List (String × Files.Tree α)}
    {names : List String} (h : names ∈ (Tree.folder entries).files.map Prod.fst) : names ≠ [] := by
  rw [Tree.files] at h
  obtain ⟨⟨_, content⟩, hfile, rfl⟩ := List.mem_map.mp h
  obtain ⟨e, -, hfile⟩ := List.mem_flatMap.mp hfile
  obtain ⟨f, -, hf⟩ := List.mem_map.mp hfile
  rw [← (Prod.mk.inj hf).1]
  exact List.cons_ne_nil _ _

/-- A scan lists the accepted files of a tree, joined to the place. -/
theorem Files.mem_scan {α : Type} {accepts : String → Bool} {place file : String} {t : Files.Tree α} :
    file ∈ scan accepts place t ↔ ∃ names ∈ t.files.map Prod.fst,
      accepts ("/".intercalate names) = true ∧ names.foldl join place = file := by
  simp only [scan, accepted, List.mem_map (f := fun names => List.foldl join place names),
    List.mem_filter, and_assoc]

/-- With the default pattern, the files that are found below a folder are those of its files whose
names end in an extension in small letters.  They are the ones that can be read, but for files whose
names are bare extensions or have extensions in other letters. -/
theorem Run.documents_defaultPattern {α : Type} (folder? : String → Option (Files.Tree α))
    (place : String) (entries : List (String × Files.Tree α))
    (hfolder : folder? place = some (.folder entries))
    (hnames : ∀ names ∈ (Tree.folder entries).files.map Prod.fst, ∀ name ∈ names, IsName name) :
    ∃ found, documents folder? { places := [place] } = .ok found ∧
      (∀ file ∈ found, file ∈ scan (fun _ => true) place (.folder entries)) ∧
      ∀ file ∈ scan (fun _ => true) place (.folder entries), ∃ name, fileName? file = some name ∧
        (file ∈ found ↔ Format.Selects name) ∧
        ((Format.ofPlace? file).isSome ↔ Format.Supports name) ∧
        ((file ∈ found ↔ (Format.ofPlace? file).isSome) ↔
          ¬ Format.IsBare name ∧ ¬ Format.HasCapitals name) := by
  obtain ⟨g, hg⟩ : ∃ g, Glob.read Command.defaultPattern = .ok g := ⟨_, Command.read_defaultPattern⟩
  have found : documents folder? { places := [place] } =
      .ok (scan g.accepts place (.folder entries)) := by
    simp [documents, hg, collect, hfolder, Except.map]
  -- of the names that lead to a file, the last one is that of the file's place
  have last {names : List String} (h : names ∈ (Tree.folder entries).files.map Prod.fst) :
      ∃ name, names.getLast? = some name ∧ fileName? (names.foldl join place) = some name := by
    have hlast := List.getLast?_eq_getLast_of_ne_nil (ne_nil_of_mem_files h)
    have hname := hnames names h _ (List.mem_of_getLast? hlast)
    exact ⟨_, hlast, fileName?_of_ends (ends_foldl_join place hlast) hname⟩
  refine ⟨_, found, fun file hfile => ?_, fun file hfile => ?_⟩
  · obtain ⟨names, hmem, -, hfile⟩ := mem_scan.mp hfile
    exact mem_scan.mpr ⟨names, hmem, rfl, hfile⟩
  · obtain ⟨names, hmem, -, rfl⟩ := mem_scan.mp hfile
    obtain ⟨name, hlast, hname⟩ := last hmem
    have selected : names.foldl join place ∈ scan g.accepts place (.folder entries) ↔
        Format.Selects name := by
      constructor
      · -- other names may lead to the same place, but the last of them is the same
        intro hscan
        obtain ⟨others, hothers, haccepts, hsame⟩ := mem_scan.mp hscan
        obtain ⟨other, hlast', hname'⟩ := last hothers
        rw [hsame, hname] at hname'
        obtain rfl := Option.some.inj hname'
        exact (Command.accepts_defaultPattern hg (ends_intercalate hlast')).mp haccepts
      · intro hselects
        have haccepts := (Command.accepts_defaultPattern hg (ends_intercalate hlast)).mpr hselects
        exact mem_scan.mpr ⟨names, hmem, haccepts, rfl⟩
    have supported := Format.isSome_ofPlace?_iff hname
    refine ⟨name, hname, selected, supported, ?_⟩
    rw [selected, supported]
    exact Format.selects_iff_supports hname

/-- A document in a folder is found and can be read. -/
theorem Run.documents_defaultPattern_lower :
    let folder? : String → Option (Files.Tree Unit) := fun _ => some (.folder [("a.json", .file ())])
    ∃ found, documents folder? { places := ["d"] } = .ok found ∧
      ("d/a.json" ∈ found ↔ Format.Selects "a.json") ∧
      ((Format.ofPlace? "d/a.json").isSome ↔ Format.Supports "a.json") := by
  intro folder?
  have files := Tree.files_single "a.json" ()
  obtain ⟨found, hfound, -, each⟩ := documents_defaultPattern folder? "d" _ rfl
    (by rw [files]; decide)
  obtain ⟨name, hname, selected, supported, -⟩ := each "d/a.json" (by
    rw [mem_scan, files]
    decide)
  obtain rfl : "a.json" = name := Option.some.inj hname
  exact ⟨found, hfound, selected, supported⟩

/-- A document whose extension is in capitals is passed over. -/
theorem Run.documents_defaultPattern_capitals :
    let t : Files.Tree Unit := .folder [("E.JSON", .file ())]
    documents (fun _ => some t) { places := ["d"] } = .ok [] ∧
      "d/E.JSON" ∈ scan (fun _ => true) "d" t ∧ Format.ofPlace? "d/E.JSON" = some .json := by
  have files := Tree.files_single "E.JSON" ()
  have scanned : scan (Glob.ending (Format.extensions.map String.toList)).accepts "d"
      (.folder [("E.JSON", .file ())]) = [] := by
    rw [scan, accepted, files]
    decide +kernel
  refine ⟨?_, ?_, by decide⟩
  · simp [documents, Command.read_defaultPattern, Except.map, collect, scanned]
  · rw [mem_scan, files]
    decide

end EntryForm
