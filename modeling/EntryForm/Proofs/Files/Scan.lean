import Mathlib.Data.List.Sort
import EntryForm.Proofs.Files.Selection
import EntryForm.Proofs.Schema.Parts
import EntryForm.Proofs.Text.Bytes

/-!
# Proofs — Files — scans

A scan of a folder finds each of its files once, in order, whatever links are in it.

* `Tree.Distinct`: in every folder, the names differ.  Then the files of a tree are those that names
  lead to through its folders (`Tree.mem_files_iff`).
* `Before`: the order of sequences of names by their bytes, name by name.  The files of a tree come
  in this order (`Tree.pairwise_files`), so that they are determined by which they are; without the
  links of the tree, they are the same (`Tree.map_fst_files_withoutLinks`).
* `foldl_join_inj`: files of different names are at different places.
* `Disk.get?_of_find`: a search ends at a tree of the disk.
* `Disk.collect_places`: what is collected from some places on a disk.
-/

namespace EntryForm.Files

variable {α : Type}

namespace Tree

/-! ### Trees of different names -/

mutual

/-- In every folder of the tree, the names differ. -/
def Distinct : Tree α → Prop
  | .file _ | .link _ => True
  | .folder entries => (entries.map Prod.fst).Nodup ∧ DistinctEach entries

/-- In every folder of each of some named trees, the names differ. -/
def DistinctEach : List (String × Tree α) → Prop
  | [] => True
  | (_, t) :: rest => t.Distinct ∧ DistinctEach rest

end

/-- Entries have different names all the way down if each of them has. -/
theorem distinctEach_iff {entries : List (String × Tree α)} :
    DistinctEach entries ↔ ∀ e ∈ entries, e.2.Distinct := by
  induction entries with
  | nil => exact iff_of_true trivial nofun
  | cons e rest ih => rw [DistinctEach, ih, List.forall_mem_cons]

/-- The names in a folder differ, and so they do in everything in it. -/
theorem distinct_folder {entries : List (String × Tree α)} : (folder entries).Distinct ↔
    (entries.map Prod.fst).Nodup ∧ ∀ e ∈ entries, e.2.Distinct := by
  rw [Distinct, distinctEach_iff]

/-- What holds of files and links, and of a folder if of each tree in it, holds of every tree. -/
theorem induct {P : Tree α → Prop} (file : ∀ content, P (.file content))
    (link : ∀ target, P (.link target))
    (folder : ∀ entries, (∀ name t, (name, t) ∈ entries → P t) → P (.folder entries)) :
    ∀ t, P t
  | .file content => file content
  | .link target => link target
  | .folder entries => folder entries fun name t he =>
      have below : sizeOf t < sizeOf (Tree.folder entries) := by
        have lt := List.sizeOf_lt_of_mem he
        rw [Prod.mk.sizeOf_spec] at lt
        rw [Tree.folder.sizeOf_spec]
        omega
      induct file link folder t
termination_by t => sizeOf t
decreasing_by exact below

/-- The files of each entry stand behind its name. -/
theorem filesByName_eq_map (entries : List (String × Tree α)) :
    filesByName entries = entries.map fun e => (e.1, e.2.files) := by
  induction entries with
  | nil => rfl
  | cons e rest ih => rw [filesByName, ih, List.map_cons]

/-! ### The files of a folder -/

/-- A file of a folder is one of an entry, with the name of the entry put in front. -/
theorem mem_files_folder {entries : List (String × Tree α)} {names : List String} {content : α} :
    (names, content) ∈ (folder entries).files ↔ ∃ name t rest,
      (name, t) ∈ entries ∧ (rest, content) ∈ t.files ∧ names = name :: rest := by
  simp only [files, inOrder, filesByName_eq_map, List.mem_flatMap, List.mem_mergeSort, List.mem_map,
    under]
  constructor
  · rintro ⟨_, ⟨⟨name, t⟩, he, rfl⟩, ⟨rest, _⟩, hf, same⟩
    obtain ⟨rfl, rfl⟩ := Prod.mk.inj same
    exact ⟨name, t, rest, he, hf, rfl⟩
  · rintro ⟨name, t, rest, he, hf, rfl⟩
    exact ⟨_, ⟨_, he, rfl⟩, _, hf, rfl⟩

/-- Where names differ, what is found under a name is the entry that has it. -/
theorem found_iff_mem {entries : List (String × Tree α)} (h : (entries.map Prod.fst).Nodup)
    {name : String} {t : Tree α} : entry? (folder entries) name = some t ↔ (name, t) ∈ entries := by
  refine ⟨fun found => ?_, lookup_eq_some_of_mem h⟩
  obtain ⟨before, after, rfl, -⟩ := List.lookup_eq_some_iff.mp found
  exact List.mem_append_right _ List.mem_cons_self

/-- The files of a tree are those that names lead to through its folders. -/
theorem mem_files_iff {t : Tree α} (h : t.Distinct) {names : List String} {content : α} :
    (names, content) ∈ t.files ↔ t.get? names = some (.file content) := by
  induction t using Tree.induct generalizing names with
  | file own =>
      cases names with
      | nil => simp [files, get?, eq_comm]
      | cons name rest => simp [files, get?, entry?]
  | link target =>
      cases names with
      | nil => simp [files, get?]
      | cons name rest => simp [files, get?, entry?]
  | folder entries ih =>
      obtain ⟨differ, each⟩ := distinct_folder.mp h
      rw [mem_files_folder]
      cases names with
      | nil => exact iff_of_false (by simp) (by simp [get?])
      | cons first others =>
          rw [get?, Option.bind_eq_some_iff]
          simp only [found_iff_mem differ]
          constructor
          · rintro ⟨name, t, rest, he, hf, same⟩
            obtain ⟨rfl, rfl⟩ := List.cons.inj same
            exact ⟨t, he, (ih _ t he (each _ he)).mp hf⟩
          · rintro ⟨t, he, hf⟩
            exact ⟨first, t, others, he, (ih first t he (each _ he)).mpr hf, rfl⟩

end Tree

/-! ### Their order -/

/-- The first of two sequences of names comes first: at the first names that differ, its name has
the lesser bytes, or it ends there. -/
def Before (names others : List String) : Prop := names.map Text.bytes < others.map Text.bytes

/-- A lesser first name comes before, whatever follows. -/
theorem before_of_lt {name other : String} (h : name < other) (rest rest' : List String) :
    Before (name :: rest) (other :: rest') :=
  List.cons_lt_cons_iff.mpr (.inl (Text.bytes_lt_of_lt h))

/-- The same name in front keeps the order. -/
theorem Before.cons {rest rest' : List String} (h : Before rest rest') (name : String) :
    Before (name :: rest) (name :: rest') :=
  List.cons_lt_cons_iff.mpr (.inr ⟨rfl, h⟩)

instance : Std.Irrefl Before := ⟨fun names => List.lt_irrefl (names.map Text.bytes)⟩

instance : Std.Antisymm Before := ⟨fun _ _ h h' => absurd h' (List.lt_asymm h)⟩

namespace Tree

/-- Sorted entries of different names increase strictly. -/
theorem pairwise_inOrder {β : Type} {entries : List (String × β)}
    (h : (entries.map Prod.fst).Nodup) : (inOrder entries).Pairwise fun a b => a.1 < b.1 := by
  have sorted : (inOrder entries).Pairwise fun a b => decide (a.1 ≤ b.1) = true := by
    refine List.pairwise_mergeSort (fun a b c hab hbc => ?_) (fun a b => ?_) entries
    · exact decide_eq_true (String.le_trans (of_decide_eq_true hab) (of_decide_eq_true hbc))
    · rw [Bool.or_eq_true, decide_eq_true_iff, decide_eq_true_iff]
      exact String.le_total a.1 b.1
  have differ : (inOrder entries).Pairwise fun a b => a.1 ≠ b.1 :=
    List.pairwise_map.mp (((List.mergeSort_perm _ _).map Prod.fst).nodup_iff.mpr h)
  refine (List.pairwise_and_iff.mpr ⟨sorted, differ⟩).imp fun h => ?_
  exact lt_of_le_of_ne (of_decide_eq_true h.1) h.2

/-- The files of a tree come in the order of their names. -/
theorem pairwise_files {t : Tree α} (h : t.Distinct) : (t.files.map Prod.fst).Pairwise Before := by
  induction t using Tree.induct with
  | file content => exact List.pairwise_singleton _ _
  | link target => exact .nil
  | folder entries ih =>
      obtain ⟨differ, each⟩ := distinct_folder.mp h
      have names : ((filesByName entries).map Prod.fst).Nodup := by
        rw [filesByName_eq_map, List.map_map]
        exact differ
      rw [files, List.map_flatMap]
      refine List.pairwise_flatMap.mpr ⟨fun e he => ?_, (pairwise_inOrder names).imp ?_⟩
      · -- below one name, the names behind it decide
        rw [inOrder, List.mem_mergeSort, filesByName_eq_map] at he
        obtain ⟨⟨name, t⟩, mem, rfl⟩ := List.mem_map.mp he
        have below := ih name t mem (each _ mem)
        rw [under, List.map_map]
        exact List.pairwise_map.mpr ((List.pairwise_map.mp below).imp fun h => h.cons name)
      · intro e e' lt names hnames others hothers
        rw [under, List.map_map] at hnames hothers
        obtain ⟨f, -, rfl⟩ := List.mem_map.mp hnames
        obtain ⟨f', -, rfl⟩ := List.mem_map.mp hothers
        exact before_of_lt lt _ _

/-! ### Links -/

/-- The tree is a link. -/
def isLink : Tree α → Bool
  | .link _ => true
  | .file _ | .folder _ => false

mutual

/-- The tree without the links below it. -/
def withoutLinks : Tree α → Tree α
  | .file content => .file content
  | .link target => .link target
  | .folder entries => .folder (withoutLinksEach entries)

/-- Those of some named trees that are not links, without the links below them. -/
def withoutLinksEach : List (String × Tree α) → List (String × Tree α)
  | [] => []
  | (name, t) :: rest =>
      if t.isLink then withoutLinksEach rest
      else (name, t.withoutLinks) :: withoutLinksEach rest

end

/-- To leave out links is to drop the entries that are links and go on in the others. -/
theorem withoutLinksEach_eq_map (entries : List (String × Tree α)) : withoutLinksEach entries =
    (entries.filter fun e => !e.2.isLink).map fun e => (e.1, e.2.withoutLinks) := by
  induction entries with
  | nil => rfl
  | cons e rest ih =>
      rw [withoutLinksEach, List.filter_cons, ih]
      cases e.2.isLink <;> rfl

/-- No file is reached through a link, so leaving links out loses none. -/
theorem mem_files_withoutLinks {t : Tree α} {names : List String} {content : α} :
    (names, content) ∈ t.withoutLinks.files ↔ (names, content) ∈ t.files := by
  induction t using Tree.induct generalizing names with
  | file _ | link _ => rw [withoutLinks]
  | folder entries ih =>
      rw [withoutLinks, withoutLinksEach_eq_map, mem_files_folder, mem_files_folder]
      constructor
      · rintro ⟨name, _, rest, he, hf, rfl⟩
        obtain ⟨⟨_, t⟩, ht, same⟩ := List.mem_map.mp he
        obtain ⟨rfl, rfl⟩ := Prod.mk.inj same
        have mem := (List.mem_filter.mp ht).1
        exact ⟨_, t, rest, mem, (ih _ t mem).mp hf, rfl⟩
      · rintro ⟨name, t, rest, he, hf, rfl⟩
        -- a link has no files, so it is none that is left out
        have kept : (!t.isLink) = true := by
          cases t with
          | link target => cases hf
          | file _ | folder _ => rfl
        refine ⟨name, t.withoutLinks, rest, ?_, (ih name t he).mpr hf, rfl⟩
        exact List.mem_map.mpr ⟨(name, t), List.mem_filter.mpr ⟨he, kept⟩, rfl⟩

/-- Names still differ when links are left out. -/
theorem Distinct.withoutLinks {t : Tree α} (h : t.Distinct) : t.withoutLinks.Distinct := by
  induction t using Tree.induct with
  | file _ | link _ => exact trivial
  | folder entries ih =>
      obtain ⟨differ, each⟩ := distinct_folder.mp h
      rw [Tree.withoutLinks, withoutLinksEach_eq_map, distinct_folder, List.map_map]
      refine ⟨differ.sublist (List.filter_sublist.map Prod.fst), List.forall_mem_map.mpr ?_⟩
      intro e he
      have mem := (List.mem_filter.mp he).1
      exact ih e.1 e.2 mem (each e mem)

/-- The files of a tree are found at the same names without its links. -/
theorem map_fst_files_withoutLinks {t : Tree α} (h : t.Distinct) :
    t.withoutLinks.files.map Prod.fst = t.files.map Prod.fst := by
  refine (pairwise_files h.withoutLinks).eq_of_mem_iff (pairwise_files h) fun names => ?_
  simp only [List.mem_map, Prod.exists, mem_files_withoutLinks]

/-! ### Trees in a tree -/

/-- Names differ in every tree that a tree leads to. -/
theorem Distinct.get? {t found : Tree α} {names : List String} (h : t.Distinct)
    (hfound : t.get? names = some found) : found.Distinct := by
  induction names generalizing t with
  | nil =>
      obtain rfl := Option.some.inj hfound
      exact h
  | cons name rest ih =>
      obtain ⟨below, hbelow, hrest⟩ := Option.bind_eq_some_iff.mp hfound
      cases t with
      | file _ | link _ => cases hbelow
      | folder entries =>
          obtain ⟨differ, each⟩ := distinct_folder.mp h
          exact ih (each _ ((found_iff_mem differ).mp hbelow)) hrest

end Tree

/-! ### Places of files -/

/-- What stands before a name in the folder at a place. -/
def start (place : String) : String :=
  if place.isEmpty || endsInSlash place then place else place ++ "/"

/-- A joined place is what entries of a place start with, and the name. -/
theorem join_eq (place name : String) : join place name = start place ++ name := by
  rw [join, start]
  split <;> rfl

/-- Behind a name a slash separates what comes next. -/
theorem start_join {place name : String} (h : IsName name) :
    start (join place name) = join place name ++ "/" := by
  have ends : Ends (join place name) name := ends_join
  obtain ⟨before, chars, -⟩ := ends
  have named : name.toList ≠ [] := fun none => h.ne_empty (String.toList_eq_nil_iff.mp none)
  have filled : (join place name).isEmpty = false := by
    rw [Bool.eq_false_iff, ne_eq, String.isEmpty_iff, ← String.toList_eq_nil_iff, chars]
    exact fun none => named (List.append_eq_nil_iff.mp none).2
  have open_ : endsInSlash (join place name) = false := by
    rw [Bool.eq_false_iff, ne_eq, endsInSlash, beq_iff_eq, chars,
      List.getLast?_append_of_ne_nil _ named]
    exact fun last => h.no_slash (List.mem_of_getLast? last)
  rw [start, filled, open_]
  rfl

/-- The place of a file is that of the folder, and behind it the names between slashes. -/
theorem foldl_join_eq {place : String} {names : List String} (hne : names ≠ [])
    (h : ∀ name ∈ names, IsName name) :
    names.foldl join place = start place ++ "/".intercalate names := by
  induction names generalizing place with
  | nil => exact absurd rfl hne
  | cons name rest ih =>
      rw [List.forall_mem_cons] at h
      rw [List.foldl_cons]
      cases rest with
      | nil =>
          rw [List.foldl_nil, join_eq]
          rfl
      | cons next others =>
          rw [ih (List.cons_ne_nil _ _) h.2, start_join h.1, join_eq, String.intercalate_cons_cons]
          simp only [String.append_assoc]

/-- Files at the same place have the same names. -/
theorem foldl_join_inj {place : String} {names others : List String} (hne : names ≠ [])
    (hne' : others ≠ []) (h : ∀ name ∈ names, IsName name) (h' : ∀ name ∈ others, IsName name)
    (same : names.foldl join place = others.foldl join place) : names = others := by
  rw [foldl_join_eq hne h, foldl_join_eq hne' h'] at same
  have chars := congrArg String.toList same
  rw [String.toList_append, String.toList_append] at chars
  have behind := List.append_cancel_left chars
  have slash : "/".toList = ['/'] := rfl
  rw [String.toList_intercalate, String.toList_intercalate, slash] at behind
  have split (names : List String) (hne : names ≠ []) (h : ∀ name ∈ names, IsName name) :
      (['/'].intercalate (names.map String.toList)).splitOn '/' = names.map String.toList :=
    List.splitOn_intercalate '/' (List.forall_mem_map.mpr fun name hname => (h name hname).no_slash)
      (by simpa using hne)
  have texts : names.map String.toList = others.map String.toList := by
    rw [← split names hne h, behind, split others hne' h']
  exact List.map_injective_iff.mpr (fun a b hab => String.ext hab) texts

/-! ### Searches -/

namespace Disk

variable {d : Disk} {found : Found}

/-- Following parts leads to what the names reached stand for, if jumps over links do. -/
theorem get?_of_followParts {jump : List String → List Part → Except Fault Found}
    (hjump : ∀ names ps found, jump names ps = .ok found →
      d.top.get? found.names = some found.tree) {names : List String} {ps : List Part}
    (h : d.followParts jump names ps = .ok found) : d.top.get? found.names = some found.tree := by
  fun_induction d.followParts jump names ps with
  | case1 names reached hreached =>
      -- the place ends here
      obtain rfl := Except.ok.inj h
      obtain ⟨t, ht, rfl⟩ := Option.map_eq_some_iff.mp hreached
      exact ht
  | case3 _ _ _ _ _ ih | case4 _ _ _ _ _ ih | case5 _ _ _ _ _ ih => exact ih h
  | case9 _ _ _ _ _ _ _ _ _ _ ih => exact ih h
  | case8 => exact hjump _ _ _ h
  | case2 | case6 | case7 | case10 => cases h

/-- Following parts leads to what the names reached stand for, over any number of links. -/
theorem get?_of_follow {links : Nat} {names : List String} {ps : List Part}
    (h : d.follow links names ps = .ok found) : d.top.get? found.names = some found.tree := by
  induction links generalizing names ps found with
  | zero => exact get?_of_followParts (fun _ _ _ hjump => by cases hjump) h
  | succ links ih => exact get?_of_followParts (fun _ _ _ hjump => ih hjump) h

/-- What a search finds is in the disk, at the names that it tells. -/
theorem get?_of_find {place : String} (h : d.find place = .ok found) :
    d.top.get? found.names = some found.tree := by
  rw [find] at h
  cases hlength : checkLength place with
  | error fault =>
      rw [hlength] at h
      cases h
  | ok _ =>
      rw [hlength] at h
      exact get?_of_follow h

end Disk

/-! ### What is collected -/

/-- What a scan of a folder collects: the documents are its accepted files. -/
structure Scans (accepts : String → Bool) (place : String) (t : Tree α)
    (documents : List String) : Prop where
  /-- They are at the places of those files that names lead to through folders, and no links, and
  that are accepted.  They come in the order of the bytes of their names. -/
  files : ∃ found : List (List String), documents = found.map (fun names => names.foldl join place) ∧
    (∀ names, names ∈ found ↔ (∃ content, t.get? names = some (.file content)) ∧
      accepts ("/".intercalate names) = true) ∧
    found.Pairwise Before
  /-- Each is collected once, if the names are those that files can have. -/
  once : (∀ names content, t.get? names = some (.file content) → ∀ name ∈ names, IsName name) →
    documents.Nodup
  /-- The links below the folder contribute nothing. -/
  links : documents = scan accepts place t.withoutLinks

/-- Scanning a folder of different names lists what it should, in order and each once. -/
theorem scans_scan (accepts : String → Bool) (place : String) {entries : List (String × Tree α)}
    (h : (Tree.folder entries).Distinct) :
    Scans accepts place (.folder entries) (scan accepts place (.folder entries)) := by
  have ordered : (accepted accepts (Tree.folder entries)).Pairwise Before :=
    (Tree.pairwise_files h).filter _
  have member (names : List String) : names ∈ accepted accepts (Tree.folder entries) ↔
      (∃ content, (Tree.folder entries).get? names = some (.file content)) ∧
        accepts ("/".intercalate names) = true := by
    rw [accepted, List.mem_filter]
    simp only [List.mem_map, Prod.exists, exists_and_right, exists_eq_right, Tree.mem_files_iff h]
  refine ⟨⟨_, rfl, member, ordered⟩, fun named => ?_, ?_⟩
  · refine List.pairwise_map.mpr (ordered.imp_of_mem fun {a b} ha hb before same => ?_)
    have file {names : List String} (hn : names ∈ accepted accepts (Tree.folder entries)) :
        names ≠ [] ∧ ∀ name ∈ names, IsName name := by
      obtain ⟨⟨content, hc⟩, -⟩ := (member names).mp hn
      exact ⟨ne_nil_of_mem_files (List.mem_filter.mp hn).1, named names content hc⟩
    obtain rfl := foldl_join_inj (file ha).1 (file hb).1 (file ha).2 (file hb).2 same
    exact Std.Irrefl.irrefl a before
  · rw [scan, scan, accepted, accepted, Tree.map_fst_files_withoutLinks h]

/-- The documents that a place stands for: those of a scan if a folder is there, and otherwise the
place itself. -/
def Disk.Collects (d : Disk) (accepts : String → Bool) (place : String)
    (documents : List String) : Prop :=
  match d.find place with
  | .ok ⟨_, .folder entries⟩ => Scans accepts place (.folder entries) documents
  | _ => documents = [place]

/-- What is collected for several places is put together place by place. -/
theorem collect_eq_flatten (accepts : String → Bool) (folder? : String → Option (Tree α))
    (places : List String) : collect accepts folder? places =
      (places.map fun place => collect accepts folder? [place]).flatten := by
  rw [← List.flatMap_def]
  simp only [collect, List.flatMap_singleton]

/-- What is collected for one place is what the disk holds there. -/
theorem Disk.collects {d : Disk} (h : d.top.Distinct) (accepts : String → Bool) (place : String) :
    d.Collects accepts place (collect accepts d.view.folder? [place]) := by
  rw [collect, List.flatMap_singleton]
  simp only [Collects, view]
  cases hfind : d.find place with
  | error fault => rfl
  | ok found =>
      obtain ⟨names, t⟩ := found
      cases t with
      | file _ | link _ => rfl
      | folder entries => exact scans_scan accepts place (h.get? (get?_of_find hfind))

/-- On a disk where the names in each folder differ, the documents of some places are those of each
place, one place after another. -/
theorem Disk.collect_places (accepts : String → Bool) (d : Disk) (h : d.top.Distinct)
    (places : List String) : ∃ documents : List (List String),
      collect accepts d.view.folder? places = documents.flatten ∧
      List.Forall₂ (d.Collects accepts) places documents := by
  refine ⟨_, collect_eq_flatten _ _ _, ?_⟩
  rw [List.forall₂_map_right_iff, List.forall₂_same]
  exact fun place _ => collects h accepts place

/-- A link to a folder is followed where it is given as a place, and not where it is found; a place
that is not there is kept. -/
theorem Disk.collect_places_link :
    let forms : Tree ByteArray := .folder [("a.json", .file ⟨#[]⟩),
      ("a", .folder [("up", .link ".."), ("b.json", .file ⟨#[]⟩)])]
    let d : Disk := { top := .folder [("forms", forms), ("here", .link "forms")] }
    let accepts : String → Bool := fun place => ".json".toList.isSuffixOf place.toList
    d.top.Distinct ∧ ∃ documents, Scans accepts "here" forms documents ∧
      collect accepts d.view.folder? ["here", "none"] = documents ++ ["none"] ∧
      "here/a/b.json" ∈ documents := by
  intro forms d accepts
  have distinct : d.top.Distinct := by simp [d, forms, Tree.Distinct, Tree.DistinctEach]
  have followed : d.find "here" = .ok ⟨["forms"], forms⟩ := rfl
  have absent : d.find "none" = .error .notFound := rfl
  obtain ⟨_, collected, stand⟩ := collect_places accepts d distinct ["here", "none"]
  obtain ⟨documents, _, here, others, rfl⟩ := List.forall₂_cons_left_iff.mp stand
  obtain ⟨_, _, none, last, rfl⟩ := List.forall₂_cons_left_iff.mp others
  obtain rfl := List.forall₂_nil_left_iff.mp last
  rw [Collects, followed] at here
  rw [Collects, absent] at none
  subst none
  refine ⟨distinct, _, here, by simpa using collected, ?_⟩
  obtain ⟨found, rfl, member, -⟩ := here.files
  refine List.mem_map.mpr ⟨["a", "b.json"], (member _).mpr ⟨⟨⟨#[]⟩, rfl⟩, ?_⟩, rfl⟩
  decide

end EntryForm.Files
