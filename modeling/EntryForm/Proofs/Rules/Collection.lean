import EntryForm.Proofs.Rules.Independence

/-!
# Proofs — Rules — the widgets a walk collects

A walk over a form meets its widgets, each once, in document order and at its own place, whatever
it has to report on the way.

* `Form.numbered`: the widgets of a form with the numbers of their page, their section and
  themselves.  It is the list of the widgets (`Form.map_fst_numbered`), has each widget under its
  own numbers (`Form.mem_numbered`), and the numbers rise (`Form.numbered_rises`).
* `Form.occurrences_eq`: the identifiers met are those of the numbered widgets.
* `Visit.walkAll_eq`: walks that share a list of identifiers do not disturb one another.
* `Form.walk_collects`: all this of a form and of any visits.
-/

namespace EntryForm
open Rules

/-! ### Numbered widgets -/

/-- The widgets of a form in document order, each with the number of its page, of its section in
the page, and of itself in the section. -/
def Form.numbered (f : Form) : List (Widget × Nat × Nat × Nat) :=
  f.pages.zipIdx.flatMap fun (page, i) =>
    (page.sections.getD []).zipIdx.flatMap fun (s, j) =>
      s.widgetList.zipIdx.map fun (w, k) => (w, i, j, k)

/-- The place that the numbers stand for. -/
def placeOf (numbers : Nat × Nat × Nat) : Path := widgetPlace numbers.1 numbers.2.1 numbers.2.2

/-- Numbered widgets are the widgets of the form. -/
theorem Form.map_fst_numbered (f : Form) : f.numbered.map Prod.fst = f.widgets := by
  have section_ (i j : Nat) (s : Section) :
      (s.widgetList.zipIdx.map fun (w, k) => (w, i, j, k)).map Prod.fst = s.widgetList := by
    rw [List.map_map]
    exact List.zipIdx_map_fst 0 s.widgetList
  have page_ (i : Nat) (page : Page) :
      ((page.sections.getD []).zipIdx.flatMap fun (s, j) =>
        s.widgetList.zipIdx.map fun (w, k) => (w, i, j, k)).map Prod.fst = page.widgetList := by
    simp only [List.map_flatMap, section_]
    exact flatMap_zipIdx_fst Section.widgetList _ 0
  simp only [numbered, List.map_flatMap, page_]
  exact flatMap_zipIdx_fst Page.widgetList _ 0

/-- A widget has the numbers where the form holds it. -/
theorem Form.mem_numbered {f : Form} {w : Widget} {i j k : Nat} :
    (w, i, j, k) ∈ f.numbered ↔ f.widgetAt? i j k = some w := by
  simp only [numbered, widgetAt?, List.mem_flatMap, List.mem_map, Prod.exists,
    List.mk_mem_zipIdx_iff_getElem?, Prod.mk.injEq, bind, Option.bind_eq_some_iff]
  constructor
  · rintro ⟨page, _, hpage, s, _, hs, _, _, hw, rfl, rfl, rfl, rfl⟩
    exact ⟨page, hpage, s, hs, hw⟩
  · rintro ⟨page, hpage, s, hs, hw⟩
    exact ⟨page, i, hpage, s, j, hs, w, k, hw, rfl, rfl, rfl, rfl⟩

/-- The first of two triples of numbers comes first in a document. -/
def Precedes : Nat × Nat × Nat → Nat × Nat × Nat → Prop :=
  Prod.Lex (· < ·) (Prod.Lex (· < ·) (· < ·))

/-- Numbering gives rising numbers. -/
theorem pairwise_snd_lt_zipIdx {α : Type} (xs : List α) :
    xs.zipIdx.Pairwise fun a b => a.2 < b.2 := by
  have numbers : (xs.zipIdx.map Prod.snd).Pairwise (· < ·) := by
    rw [List.zipIdx_map_snd]
    exact List.pairwise_lt_range'
  exact List.pairwise_map.mp numbers

/-- Widgets are numbered in the order of the document. -/
theorem Form.numbered_rises (f : Form) : f.numbered.Pairwise fun a b => Precedes a.2 b.2 := by
  -- within an element the numbers rise behind its own; from one to the next its own rises
  refine List.pairwise_flatMap.mpr ⟨?_, (pairwise_snd_lt_zipIdx _).imp ?_⟩
  · rintro ⟨page, i⟩ -
    refine List.pairwise_flatMap.mpr ⟨?_, (pairwise_snd_lt_zipIdx _).imp ?_⟩
    · rintro ⟨s, j⟩ -
      refine List.pairwise_map.mpr ((pairwise_snd_lt_zipIdx _).imp ?_)
      intro e e' lt
      exact Prod.Lex.right i (Prod.Lex.right j lt)
    · intro e e' lt a ha b hb
      obtain ⟨_, -, rfl⟩ := List.mem_map.mp ha
      obtain ⟨_, -, rfl⟩ := List.mem_map.mp hb
      exact Prod.Lex.right i (Prod.Lex.left _ _ lt)
  · intro e e' lt a ha b hb
    obtain ⟨_, -, ha⟩ := List.mem_flatMap.mp ha
    obtain ⟨_, -, hb⟩ := List.mem_flatMap.mp hb
    obtain ⟨_, -, rfl⟩ := List.mem_map.mp ha
    obtain ⟨_, -, rfl⟩ := List.mem_map.mp hb
    exact Prod.Lex.left _ _ lt

/-- The identifiers of a form are met at the places of its widgets. -/
theorem Form.occurrences_eq (f : Form) : f.occurrences =
    f.numbered.map fun e => ⟨e.1.id, (placeOf e.2).field "id"⟩ := by
  simp only [numbered, List.map_flatMap, List.map_map]
  rfl

/-! ### Visits -/

/-- A page or a section that is walked, where it is, and how it is validated. -/
inductive Visit where
  | ofPage (o : Options) (p : Path) (page : Page)
  | ofSection (o : Options) (p : Path) (s : Section)

namespace Visit

/-- Walks the node. -/
def walk : Visit → List Occurrence → Walk
  | ofPage o p page, met => page.walk o p met
  | ofSection o p s, met => s.walk o p met

/-- The widgets of the node, in document order. -/
def widgets : Visit → List Widget
  | ofPage _ _ page => page.widgetList
  | ofSection _ _ s => s.widgetList

/-- The identifiers of the node's widgets, and where they are. -/
def occurrences : Visit → List Occurrence
  | ofPage _ p page => page.occurrences p
  | ofSection _ p s => s.occurrences p

/-- Walks one node after another, each with the identifiers that those before it have met. -/
def walkAll : List Visit → List Occurrence → List (List Violation) × List Occurrence
  | [], met => ([], met)
  | v :: rest, met =>
      let first := v.walk met
      let others := walkAll rest first.met
      (first.violations :: others.1, others.2)

/-- What a walk reports does not depend on the identifiers met before, which it keeps. -/
theorem walk_eq (v : Visit) (met : List Occurrence) :
    v.walk met = ⟨(v.walk []).violations, met ++ v.occurrences⟩ := by
  cases v with
  | ofPage o p page => simp only [walk, occurrences, Page.walk_eq]
  | ofSection o p s => simp only [walk, occurrences, Section.walk_eq]

/-- A node's identifiers are those of its widgets. -/
theorem map_id_occurrences (v : Visit) : v.occurrences.map Occurrence.id = v.widgets.map Widget.id := by
  cases v with
  | ofPage o p page => exact page.map_id_occurrences p
  | ofSection o p s => exact s.map_id_occurrences p

/-- Walks one after the other report as they would alone, and put what they meet in a row. -/
theorem walkAll_eq (visits : List Visit) (met : List Occurrence) : walkAll visits met =
    (visits.map fun v => (v.walk []).violations, met ++ visits.flatMap occurrences) := by
  induction visits generalizing met with
  | nil => rw [walkAll, List.map_nil, List.flatMap_nil, List.append_nil]
  | cons v rest ih =>
      have first := v.walk_eq met
      simp only [walkAll, first, ih, List.map_cons, List.flatMap_cons, List.append_assoc]

end Visit

/-! ### What a walk collects -/

/-- The walk over a form meets the identifiers of its widgets, in order and each at its place.
Walks over pages and sections that share a list of identifiers keep what is in it, add the
identifiers of their own widgets, and report what each of them reports by itself. -/
theorem Form.walk_collects (o : Options) (f : Form) :
    (f.walk o).met.map Occurrence.id = f.widgets.map Widget.id ∧
      ((f.walk o).met = f.numbered.map fun e => ⟨e.1.id, (placeOf e.2).field "id"⟩) ∧
      f.numbered.map Prod.fst = f.widgets ∧
      (∀ w i j k, (w, i, j, k) ∈ f.numbered ↔ f.widgetAt? i j k = some w) ∧
      (f.numbered.Pairwise fun a b => Precedes a.2 b.2) ∧
      (∀ i j k, ((placeOf (i, j, k)).field "id").render = "pages[" ++ toString i ++
        "].sections[" ++ toString j ++ "].widgets[" ++ toString k ++ "].id") ∧
      (∀ (v : Visit) (met : List Occurrence),
        v.walk met = ⟨(v.walk []).violations, met ++ v.occurrences⟩ ∧
          v.occurrences.map Occurrence.id = v.widgets.map Widget.id) ∧
      ∀ (visits : List Visit) (met : List Occurrence), Visit.walkAll visits met =
        (visits.map fun v => (v.walk []).violations, met ++ visits.flatMap Visit.occurrences) := by
  have met : (f.walk o).met = f.occurrences := by rw [walk_eq]
  refine ⟨?_, ?_, f.map_fst_numbered, fun w i j k => mem_numbered, f.numbered_rises, ?_,
    fun v met => ⟨v.walk_eq met, v.map_id_occurrences⟩, Visit.walkAll_eq⟩
  · rw [met, map_id_occurrences]
  · rw [met, occurrences_eq]
  · intro i j k
    rw [placeOf, Path.render_field, render_widgetPlace]
    simp [Path.extendText, String.append_assoc]

end EntryForm
