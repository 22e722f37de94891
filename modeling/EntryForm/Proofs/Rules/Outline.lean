import EntryForm.Proofs.Rules.Acceptance

/-!
# Proofs — Rules — the outline of a nested checklist

The outline lists the items of a checklist in pre-order, each with its depth and its path
(`NestedItem.outlineList`).  A walk under a ceiling reports on the items of the outline that are not
below the ceiling, one after the other, as if they were siblings.

* `NestedItem.walk_eq_outline`: a walk is the reports on the visible items, with their keys.
* `NestedItem.exists_cut`: an item at the ceiling has items below it exactly if there are more
  levels than the ceiling.
* `NestedItem.walkList_setList`: what stands in a list below the ceiling makes no difference.
* `NestedChecklist.violations_outline`: so of a checklist, item by item.
-/

namespace EntryForm
open Rules Text

/-! ### Outlines -/

/-- An item of a nested checklist with its depth, top-level items being at depth one, and its
path. -/
structure Placed where
  depth : Nat
  path : Path
  item : NestedItem

/-- The key of the item. -/
def Placed.key (x : Placed) : String := x.item.key

mutual

/-- An item at a depth and a path, and every item below it, in pre-order. -/
def NestedItem.outline (depth : Nat) (p : Path) : NestedItem → List Placed
  | .mk key label itemType required children =>
      ⟨depth, p, .mk key label itemType required children⟩ ::
        NestedItem.outlineList (depth + 1) (p.field "children") 0 children

/-- The items of a list from position `i` on and every item below them, in pre-order. -/
def NestedItem.outlineList (depth : Nat) (p : Path) (i : Nat) : List NestedItem → List Placed
  | [] => []
  | item :: rest =>
      NestedItem.outline depth (p.index i) item ++ NestedItem.outlineList depth p (i + 1) rest

end

/-- The items that are not below the ceiling. -/
def Placed.upTo (ceiling : Nat) (xs : List Placed) : List Placed := xs.filter (·.depth ≤ ceiling)

/-- An item at the ceiling or above it is kept. -/
theorem Placed.upTo_cons {ceiling : Nat} {x : Placed} (h : x.depth ≤ ceiling) (xs : List Placed) :
    upTo ceiling (x :: xs) = x :: upTo ceiling xs :=
  List.filter_cons_of_pos (decide_eq_true h)

theorem Placed.upTo_append (ceiling : Nat) (xs ys : List Placed) :
    upTo ceiling (xs ++ ys) = upTo ceiling xs ++ upTo ceiling ys :=
  List.filter_append xs ys

mutual

/-- Nothing in the outline of an item is above it. -/
theorem NestedItem.le_depth {depth : Nat} {p : Path} : ∀ item : NestedItem,
    ∀ x ∈ item.outline depth p, depth ≤ x.depth
  | .mk key label itemType required children => by
    rw [outline, List.forall_mem_cons]
    exact ⟨Nat.le_refl depth, fun x hx => Nat.le_of_succ_le (le_depth_list children x hx)⟩

/-- Nothing in the outline of some items is above them. -/
theorem NestedItem.le_depth_list {depth : Nat} {p : Path} {i : Nat} : ∀ items : List NestedItem,
    ∀ x ∈ outlineList depth p i items, depth ≤ x.depth
  | [] => nofun
  | item :: rest => by
    rw [outlineList, List.forall_mem_append]
    exact ⟨le_depth item, le_depth_list rest⟩

end

/-- Items below the ceiling are left out with all below them. -/
theorem NestedItem.upTo_outlineList {ceiling depth : Nat} (below : ceiling < depth) (p : Path)
    (i : Nat) (items : List NestedItem) :
    Placed.upTo ceiling (outlineList depth p i items) = [] := by
  refine List.filter_eq_nil_iff.mpr fun x hx => ?_
  have deep := le_depth_list items x hx
  rw [decide_eq_true_eq]
  omega

/-! ### Walks over visible items -/

/-- The reports on an item that is looked at; `again` says whether one before it has its key. -/
def Placed.violations (ceiling : Nat) (again : Bool) (x : Placed) : List Violation :=
  x.item.ownViolations x.path again ++
    reportIf (x.depth == ceiling && !x.item.children.isEmpty) (x.path.field "children")
      (.tooDeep ceiling)

/-- The reports on items that are looked at one after the other, after items with the keys
`seen`. -/
def violationsAfter (ceiling : Nat) (seen : List String) (xs : List Placed) : List Violation :=
  siblingsFrom Placed.key (fun _ => Placed.violations ceiling) 0 seen xs

/-- Where a check does not look at positions, they may begin anywhere. -/
theorem siblingsFrom_position {α : Type} {key : α → String} (check : Bool → α → List Violation)
    (i j : Nat) (seen : List String) (xs : List α) :
    siblingsFrom key (fun _ => check) i seen xs = siblingsFrom key (fun _ => check) j seen xs := by
  induction xs generalizing i j seen with
  | nil => rfl
  | cons x rest ih => rw [siblingsFrom, siblingsFrom, ih (i + 1) (j + 1)]

/-- What a walk comes to that looks at some items, after items with the keys `seen`. -/
def KeyWalk.visiting (ceiling : Nat) (seen : List String) (xs : List Placed) : KeyWalk :=
  ⟨violationsAfter ceiling seen xs, (xs.map Placed.key).reverse ++ seen⟩

section Visiting

variable (ceiling : Nat) (seen : List String)

/-- A visit looks at the first item and then at the others, with its key met. -/
theorem KeyWalk.visiting_cons (x : Placed) (xs : List Placed) :
    visiting ceiling seen (x :: xs) =
      ⟨x.violations ceiling (seen.contains x.key) ++
        (visiting ceiling (x.key :: seen) xs).violations,
        (visiting ceiling (x.key :: seen) xs).keys⟩ := by
  rw [visiting, violationsAfter, siblingsFrom, siblingsFrom_position _ (0 + 1) 0, List.map_cons,
    List.reverse_cons, List.append_assoc]
  rfl

/-- A visit of some items and then others goes on with the keys of the former. -/
theorem KeyWalk.visiting_append (xs ys : List Placed) :
    visiting ceiling seen (xs ++ ys) =
      ⟨(visiting ceiling seen xs).violations ++
        (visiting ceiling (visiting ceiling seen xs).keys ys).violations,
        (visiting ceiling (visiting ceiling seen xs).keys ys).keys⟩ := by
  rw [visiting, violationsAfter, siblingsFrom_append, siblingsFrom_position _ (0 + xs.length) 0,
    List.map_append, List.reverse_append, List.append_assoc]
  rfl

end Visiting

/-- An item is reported for the items below it only at the ceiling. -/
theorem Placed.violations_of_ne {ceiling : Nat} {x : Placed}
    (h : x.depth ≠ ceiling ∨ x.item.children = []) (again : Bool) :
    x.violations ceiling again = x.item.ownViolations x.path again := by
  have none : (x.depth == ceiling && !x.item.children.isEmpty) = false := by
    obtain h | h := h
    · rw [beq_false_of_ne h, Bool.false_and]
    · rw [h, List.isEmpty_nil, Bool.not_true, Bool.and_false]
  rw [violations, none, reportIf, if_neg Bool.false_ne_true, List.append_nil]

/-- An item at the ceiling that has children is reported for them. -/
theorem Placed.violations_of_eq (x : Placed) {ceiling : Nat} (h : x.depth = ceiling)
    (hc : x.item.children ≠ []) (again : Bool) : x.violations ceiling again =
      x.item.ownViolations x.path again ++ [⟨x.path.field "children", .tooDeep ceiling⟩] := by
  have cut : (x.depth == ceiling && !x.item.children.isEmpty) = true := by
    rw [beq_iff_eq.mpr h, List.isEmpty_eq_false_iff.mpr hc, Bool.not_false, Bool.and_true]
  rw [violations, cut, reportIf, if_pos rfl]

mutual

/-- To walk an item is to visit the visible part of its outline. -/
theorem NestedItem.walk_eq_outline {ceiling depth : Nat} (hd : depth ≤ ceiling) (p : Path)
    (keys : List String) : ∀ item : NestedItem, item.walk ceiling depth p keys =
      KeyWalk.visiting ceiling keys (Placed.upTo ceiling (item.outline depth p))
  | .mk key label itemType required children => by
    rw [walk, outline, Placed.upTo_cons hd, KeyWalk.visiting_cons]
    cases children with
    | nil =>
        rw [Placed.violations_of_ne (.inr rfl)]
        simp only [outlineList, KeyWalk.visiting, Placed.upTo, List.filter_nil, violationsAfter,
          siblingsFrom, List.append_nil, List.map_nil, List.reverse_nil, List.nil_append]
        rfl
    | cons child others =>
        rw [List.isEmpty_cons, if_neg Bool.false_ne_true]
        by_cases reached : ceiling < depth + 1
        · obtain rfl : depth = ceiling := by omega
          let x : Placed := ⟨depth, p, .mk key label itemType required (child :: others)⟩
          have cut := x.violations_of_eq rfl (List.cons_ne_nil child others)
          rw [if_pos reached, upTo_outlineList reached, cut]
          simp only [KeyWalk.visiting, violationsAfter, siblingsFrom, List.append_nil, List.map_nil,
            List.reverse_nil, List.nil_append]
          rfl
        · have above : depth ≠ ceiling := by omega
          rw [if_neg reached, walkList_eq_outline (by omega), Placed.violations_of_ne (.inl above)]
          rfl

/-- To walk some items is to visit the visible part of their outline. -/
theorem NestedItem.walkList_eq_outline {ceiling depth : Nat} (hd : depth ≤ ceiling) (p : Path)
    (i : Nat) (keys : List String) : ∀ items : List NestedItem,
      walkList ceiling depth p i keys items =
        KeyWalk.visiting ceiling keys (Placed.upTo ceiling (outlineList depth p i items))
  | [] => rfl
  | item :: rest => by
    rw [walkList, walk_eq_outline hd, walkList_eq_outline hd, outlineList, Placed.upTo_append,
      KeyWalk.visiting_append]

end

/-! ### What is to be reported of an item -/

/-- The reports on the key of an item, after others. -/
def Placed.keyReports (before : List Placed) (x : Placed) : List Violation :=
  let at_ := x.path.field "key"
  if x.key = "" then [⟨at_, .empty "item key"⟩]
  else
    (if Identifier x.key then [] else [⟨at_, .malformedIdentifier "item key" x.key⟩]) ++
    (if x.key ∈ before.map Placed.key then [⟨at_, .repeated "item key" x.key⟩] else [])

/-- The reports on an item that is looked at, after others: a key that is missing, or else malformed
or used before; a label that is missing; a type that is none of those allowed; and a list of items
that is below the ceiling. -/
def Placed.reports (ceiling : Nat) (before : List Placed) (x : Placed) : List Violation :=
  x.keyReports before ++
  (if Legible x.item.label then [] else [⟨x.path.field "label", .empty "item label"⟩]) ++
  (if x.item.itemType ∈ NestedItem.types then []
    else [⟨x.path.field "type", .notAmong "item type" x.item.itemType NestedItem.types⟩]) ++
  (if x.depth = ceiling ∧ x.item.children ≠ [] then
    [⟨x.path.field "children", .tooDeep ceiling⟩] else [])

section Checks

variable {what value : String} {p : Path}

theorem reportIf_eq {b : Bool} {P : Prop} [Decidable P] (h : b = true ↔ P) (c : Cause) :
    reportIf b p c = if P then [⟨p, c⟩] else [] := if_congr h rfl rfl

/-- What is missing is reported. -/
theorem reportIf_eq_not {b : Bool} {P : Prop} [Decidable P] (h : b = false ↔ P) (c : Cause) :
    reportIf b p c = if P then [] else [⟨p, c⟩] := by
  rw [reportIf_eq (P := ¬P) (by rw [← h, Bool.not_eq_false]), ite_not]

/-- What is reported of a text, by what it is. -/
theorem notBlank_eq : notBlank what value p =
    if Legible value then [] else [⟨p, .empty what⟩] :=
  reportIf_eq_not (isBlank_eq_false_iff value) _

/-- What is reported of a value to be allowed, by what it is. -/
theorem oneOf_eq {allowed : List String} : oneOf what allowed value p =
    if value ∈ allowed then [] else [⟨p, .notAmong what value allowed⟩] :=
  reportIf_eq_not (by rw [Bool.not_eq_false', List.contains_iff_mem]) _

/-- What is reported of a local name: that it is empty, or else malformed and used before. -/
theorem localIdentifier_eq {again : Bool} {P : Prop} [Decidable P] (h : again = true ↔ P) :
    localIdentifier what value again p =
      if value = "" then [⟨p, .empty what⟩]
      else (if Identifier value then [] else [⟨p, .malformedIdentifier what value⟩]) ++
        (if P then [⟨p, .repeated what value⟩] else []) := by
  cases empty : value.isEmpty with
  | true =>
      rw [if_pos (String.isEmpty_iff.mp empty), localIdentifier, identifier, empty, Bool.not_true,
        Bool.and_false, if_pos rfl]
      rfl
  | false =>
      have nonempty : value ≠ "" := fun e => by rw [e] at empty; cases empty
      have malformed : (!isIdentifier value) = false ↔ Identifier value := by
        rw [Bool.not_eq_false', isIdentifier_iff]
      rw [if_neg nonempty, localIdentifier, identifier, empty, if_neg Bool.false_ne_true,
        Bool.not_false, Bool.and_true, reportIf_eq_not malformed, reportIf_eq h]

end Checks

/-- The reports on an item are those to be made after the items before it. -/
theorem Placed.violations_eq_reports {ceiling : Nat} {again : Bool} {before : List Placed}
    {x : Placed} (h : again = true ↔ x.key ∈ before.map key) :
    x.violations ceiling again = x.reports ceiling before := by
  have cut : (x.depth == ceiling && !x.item.children.isEmpty) = true ↔
      x.depth = ceiling ∧ x.item.children ≠ [] := by
    rw [Bool.and_eq_true, beq_iff_eq, Bool.not_eq_true', List.isEmpty_eq_false_iff]
  rw [violations, NestedItem.ownViolations, localIdentifier_eq h, notBlank_eq, oneOf_eq,
    reportIf_eq cut]
  rfl

/-- The reports on items that are looked at one after the other, item by item. -/
theorem violationsAfter_eq_reports (ceiling : Nat) (xs : List Placed) :
    violationsAfter ceiling [] xs =
      xs.zipIdx.flatMap fun e => e.1.reports ceiling (xs.take e.2) := by
  refine (siblings_eq_flatMap xs).trans (List.flatMap_congr fun e _ => ?_)
  refine Placed.violations_eq_reports ?_
  rw [repeatsBefore, List.any_eq_true, List.mem_map]
  simp only [beq_iff_eq]

/-! ### Levels -/

mutual

/-- An item with items below the ceiling makes more levels than fit under the ceiling. -/
theorem NestedItem.exists_cut {ceiling depth : Nat} (hd : depth ≤ ceiling) {p : Path} :
    ∀ item : NestedItem,
      (∃ x ∈ item.outline depth p, x.depth = ceiling ∧ x.item.children ≠ []) ↔
        ceiling + 1 < item.height + depth
  | .mk key label itemType required children => by
    rw [outline, height, List.exists_mem_cons_iff]
    obtain rfl | above := Nat.eq_or_lt_of_le hd
    · -- at the ceiling only the item itself can be one
      have others : ¬ ∃ x ∈ outlineList (depth + 1) (p.field "children") 0 children,
          x.depth = depth ∧ x.item.children ≠ [] := by
        rintro ⟨x, hx, same, -⟩
        have deep := le_depth_list children x hx
        omega
      rw [or_iff_left others]
      cases children with
      | nil =>
          rw [levels]
          exact iff_of_false (fun h => h.2 rfl) (by omega)
      | cons child rest =>
          have deeper := levels_pos (List.cons_ne_nil child rest)
          exact iff_of_true ⟨rfl, List.cons_ne_nil child rest⟩ (by omega)
    · have own : ¬ (depth = ceiling ∧ children ≠ []) := fun h => by omega
      have below := exists_cut_list (Nat.succ_le_of_lt above) (p := p.field "children") (i := 0)
        children
      refine (or_iff_right own).trans (below.trans ?_)
      omega

/-- An item at the ceiling has children exactly if the list is higher than the ceiling allows. -/
theorem NestedItem.exists_cut_list {ceiling depth : Nat} (hd : depth ≤ ceiling) {p : Path}
    {i : Nat} : ∀ items : List NestedItem,
      (∃ x ∈ outlineList depth p i items, x.depth = ceiling ∧ x.item.children ≠ []) ↔
        ceiling + 1 < levels items + depth
  | [] => by
    rw [outlineList, levels]
    exact iff_of_false (fun ⟨_, hx, _⟩ => absurd hx List.not_mem_nil) (by omega)
  | item :: rest => by
    have first := exists_cut hd (p := p.index i) item
    have others := exists_cut_list hd (p := p) (i := i + 1) rest
    simp only [outlineList, List.mem_append, or_and_right, exists_or, first, others, levels]
    omega

end

/-! ### Lists below the ceiling -/

/-- The list of items that an address leads to: from item to item, by their positions. -/
def NestedItem.listAt? : List Nat → List NestedItem → Option (List NestedItem)
  | [], items => some items
  | i :: rest, items => items[i]?.bind fun item => NestedItem.listAt? rest item.children

/-- The items with another list where an address leads. -/
def NestedItem.setList (new : List NestedItem) : List Nat → List NestedItem → List NestedItem
  | [], _ => new
  | i :: rest, items =>
      items.modify i fun item => item.withChildren (NestedItem.setList new rest item.children)

/-- An item that is walked as before may stand in place of another. -/
theorem NestedItem.walkList_modify {ceiling depth : Nat} {p : Path} {g : NestedItem → NestedItem}
    {items : List NestedItem} {i : Nat} (h : ∀ item, items[i]? = some item → ∀ q keys,
      (g item).walk ceiling depth q keys = item.walk ceiling depth q keys) (j : Nat)
    (keys : List String) :
    walkList ceiling depth p j keys (items.modify i g) =
      walkList ceiling depth p j keys items := by
  induction items generalizing i j keys with
  | nil => rw [List.modify_nil]
  | cons item rest ih =>
      cases i with
      | zero => rw [List.modify_zero_cons, walkList, walkList, h item rfl]
      | succ i =>
          have later := fun keys' => ih (i := i) (fun other hother => h other hother) (j + 1) keys'
          rw [List.modify_succ_cons, walkList, walkList, later]

section Replacement

variable {new old : List NestedItem} (hnew : new ≠ []) (hold : old ≠ [])
include hnew hold

/-- Other items leave no list empty, and fill none. -/
theorem NestedItem.setList_eq_nil {address : List Nat} {items : List NestedItem}
    (found : listAt? address items = some old) : setList new address items = [] ↔ items = [] := by
  cases address with
  | nil =>
      obtain rfl := Option.some.inj found
      exact iff_of_false hnew hold
  | cons i rest => exact List.modify_eq_nil_iff

/-- A list below the ceiling may be exchanged for another without any change in the walk. -/
theorem NestedItem.walkList_setList {ceiling : Nat} {address : List Nat} {depth : Nat}
    {items : List NestedItem} (hd : depth ≤ ceiling) (below : ceiling < address.length + depth)
    (found : listAt? address items = some old) (p : Path) (i : Nat) (keys : List String) :
    walkList ceiling depth p i keys (setList new address items) =
      walkList ceiling depth p i keys items := by
  induction address generalizing depth items p i keys with
  | nil =>
      rw [List.length_nil] at below
      omega
  | cons k rest ih =>
      rw [List.length_cons] at below
      refine walkList_modify (fun item hitem q keys' => ?_) i keys
      obtain ⟨key, label, itemType, required, children⟩ := item
      have inner : listAt? rest children = some old := by
        rw [listAt?, hitem] at found
        exact found
      have empty : (setList new rest children).isEmpty = children.isEmpty := by
        rw [Bool.eq_iff_iff, List.isEmpty_iff, List.isEmpty_iff]
        exact setList_eq_nil hnew hold inner
      rw [withChildren, NestedItem.children, walk, walk, empty]
      by_cases reached : ceiling < depth + 1
      · rw [if_pos reached, if_pos reached]
        rfl
      · rw [if_neg reached, if_neg reached, ih (by omega) (by omega) inner]
        rfl

/-- A list below the ceiling may be exchanged for another without any change in the report. -/
theorem NestedChecklist.violations_setList {ceiling : Nat} {address : List Nat}
    {c : NestedChecklist} (below : ceiling ≤ address.length)
    (found : NestedItem.listAt? address c.items = some old) (p : Path) :
    { c with items := NestedItem.setList new address c.items }.violations ceiling p =
      c.violations ceiling p := by
  have empty : (NestedItem.setList new address c.items).isEmpty = c.items.isEmpty := by
    rw [Bool.eq_iff_iff, List.isEmpty_iff, List.isEmpty_iff]
    exact NestedItem.setList_eq_nil hnew hold found
  have items : itemViolations ceiling (p.field "items")
      (NestedItem.setList new address c.items) =
        itemViolations ceiling (p.field "items") c.items := by
    rw [itemViolations, itemViolations, empty]
    by_cases reached : ceiling < 1
    · rw [if_pos reached, if_pos reached]
    · rw [if_neg reached, if_neg reached,
        NestedItem.walkList_setList hnew hold (by omega) (by omega) found]
  simp only [violations, empty, items]

end Replacement

/-! ### Checklists -/

/-- The items of a checklist that are not below the ceiling, in pre-order. -/
def NestedChecklist.visible (ceiling : Nat) (p : Path) (c : NestedChecklist) : List Placed :=
  Placed.upTo ceiling (NestedItem.outlineList 1 (p.field "items") 0 c.items)

/-- The reports on a checklist that do not concern single items. -/
def NestedChecklist.header (p : Path) (c : NestedChecklist) : List Violation :=
  reportIf c.items.isEmpty (p.field "items") (.emptyCollection .nestedItems) ++
  oneOf "numbering style" NestedChecklist.numberingStyles c.numberingStyle
    (p.field "numbering_style") ++
  between 0 100 c.indentSize (p.field "indent_size")

/-- The reports on the items: one on the list if the ceiling is zero, or else a visit of the
outline. -/
theorem NestedChecklist.itemViolations_eq (ceiling : Nat) (p : Path) (c : NestedChecklist) :
    itemViolations ceiling (p.field "items") c.items =
      if ceiling = 0 ∧ c.items ≠ [] then [⟨p.field "items", .tooDeep 0⟩]
      else violationsAfter ceiling [] (c.visible ceiling p) := by
  rw [itemViolations, visible]
  by_cases none : c.items = []
  · rw [none, List.isEmpty_nil, if_pos rfl, if_neg fun h => h.2 rfl]
    rfl
  · rw [List.isEmpty_eq_false_iff.mpr none, if_neg Bool.false_ne_true]
    by_cases closed : ceiling < 1
    · obtain rfl : ceiling = 0 := by omega
      rw [if_pos closed, if_pos ⟨rfl, none⟩]
    · rw [if_neg closed, if_neg fun h => by omega, NestedItem.walkList_eq_outline (by omega)]
      rfl

/-- The report that a list is too deep is none of those on an item itself. -/
theorem Placed.exists_tooDeep {ceiling : Nat} {before : List Placed} {x : Placed} :
    (∃ v ∈ x.reports ceiling before, v.kind = .nestingTooDeep) ↔
      x.depth = ceiling ∧ x.item.children ≠ [] := by
  simp only [reports, List.mem_append, List.mem_ite_nil_left, List.mem_ite_nil_right,
    List.mem_singleton]
  constructor
  · rintro ⟨v, ((hv | ⟨-, rfl⟩) | ⟨-, rfl⟩) | ⟨cut, -⟩, deep⟩
    · rw [keyReports] at hv
      split at hv
      · rw [List.mem_singleton.mp hv] at deep
        cases deep
      · simp only [List.mem_append, List.mem_ite_nil_left, List.mem_ite_nil_right,
          List.mem_singleton] at hv
        obtain ⟨-, rfl⟩ | ⟨-, rfl⟩ := hv
        · cases deep
        · cases deep
    · cases deep
    · cases deep
    · exact cut
  · exact fun cut => ⟨_, .inr ⟨cut, rfl⟩, rfl⟩

/-- A visit reports too deep a nesting exactly if an item at the ceiling has children. -/
theorem exists_tooDeep_iff (ceiling : Nat) (xs : List Placed) :
    (∃ v ∈ violationsAfter ceiling [] xs, v.kind = .nestingTooDeep) ↔
      ∃ x ∈ xs, x.depth = ceiling ∧ x.item.children ≠ [] := by
  rw [violationsAfter_eq_reports]
  simp only [List.mem_flatMap]
  constructor
  · rintro ⟨v, ⟨e, he, hv⟩, deep⟩
    exact ⟨e.1, List.fst_mem_of_mem_zipIdx he, Placed.exists_tooDeep.mp ⟨v, hv, deep⟩⟩
  · rintro ⟨x, hx, cut⟩
    obtain ⟨i, hi⟩ := List.mem_iff_getElem?.mp hx
    obtain ⟨v, hv, deep⟩ := Placed.exists_tooDeep.mpr cut
    exact ⟨v, ⟨(x, i), List.mk_mem_zipIdx_iff_getElem?.mpr hi, hv⟩, deep⟩

/-- Too deep a nesting is reported exactly if the checklist is higher than the ceiling. -/
theorem NestedChecklist.exists_tooDeep (ceiling : Nat) (p : Path) (c : NestedChecklist) :
    (∃ v ∈ itemViolations ceiling (p.field "items") c.items, v.kind = .nestingTooDeep) ↔
      ceiling < NestedItem.levels c.items := by
  rw [itemViolations_eq]
  by_cases closed : ceiling = 0 ∧ c.items ≠ []
  · obtain ⟨rfl, nonempty⟩ := closed
    rw [if_pos ⟨rfl, nonempty⟩]
    exact iff_of_true ⟨_, List.mem_cons_self, rfl⟩ (NestedItem.levels_pos nonempty)
  · rw [if_neg closed, exists_tooDeep_iff, visible]
    by_cases none : c.items = []
    · rw [none, NestedItem.outlineList, NestedItem.levels]
      exact iff_of_false (fun ⟨_, hx, _⟩ => absurd hx List.not_mem_nil) (by omega)
    · -- an item at the ceiling is visible
      have open_ : 1 ≤ ceiling := Nat.pos_of_ne_zero fun h => closed ⟨h, none⟩
      have cut := NestedItem.exists_cut_list open_ (p := p.field "items") (i := 0) c.items
      rw [Nat.add_lt_add_iff_right] at cut
      rw [← cut]
      refine exists_congr fun x => ?_
      rw [Placed.upTo, List.mem_filter, decide_eq_true_eq]
      exact ⟨fun ⟨⟨hx, _⟩, h⟩ => ⟨hx, h⟩, fun ⟨hx, h⟩ => ⟨⟨hx, Nat.le_of_eq h.1⟩, h⟩⟩

/-- The reports that do not concern single items are not on nesting. -/
theorem NestedChecklist.kind_ne_of_header {p : Path} {c : NestedChecklist} {v : Violation}
    (hv : v ∈ c.header p) : v.kind ≠ .nestingTooDeep := by
  simp only [header, List.mem_append, oneOf, between, mem_reportIf] at hv
  intro deep
  obtain (⟨-, rfl⟩ | ⟨-, rfl⟩) | ⟨-, rfl⟩ := hv
  · cases deep
  · cases deep
  · cases deep

/-- A checklist is reported for what its header has, for its items if even they are below the
ceiling, and for the items that are not below it, in pre-order; where an item's key is compared with
those of all the items before it.  There are lists below the ceiling exactly if there are more
levels; and what a list below the ceiling holds does not matter. -/
theorem NestedChecklist.violations_outline (ceiling : Nat) (p : Path) (c : NestedChecklist) :
    c.violations ceiling p = c.header p ++
      (if ceiling = 0 ∧ c.items ≠ [] then [⟨p.field "items", .tooDeep 0⟩]
        else (c.visible ceiling p).zipIdx.flatMap fun e =>
          e.1.reports ceiling ((c.visible ceiling p).take e.2)) ∧
    ((∃ v ∈ c.violations ceiling p, v.kind = .nestingTooDeep) ↔
      ceiling < NestedItem.levels c.items) ∧
    ∀ address old new, ceiling ≤ address.length →
      NestedItem.listAt? address c.items = some old → old ≠ [] → new ≠ [] →
        { c with items := NestedItem.setList new address c.items }.violations ceiling p =
          c.violations ceiling p := by
  have parts : c.violations ceiling p = c.header p ++
      itemViolations ceiling (p.field "items") c.items := rfl
  refine ⟨?_, ?_, ?_⟩
  · rw [parts, itemViolations_eq, violationsAfter_eq_reports]
  · rw [← exists_tooDeep ceiling p, parts]
    constructor
    · rintro ⟨v, hv, deep⟩
      obtain hv | hv := List.mem_append.mp hv
      · exact absurd deep (kind_ne_of_header hv)
      · exact ⟨v, hv, deep⟩
    · exact fun ⟨v, hv, deep⟩ => ⟨v, List.mem_append_right _ hv, deep⟩
  · exact fun address old new below found hold hnew => violations_setList hnew hold below found p

/-- A list below the ceiling is replaced by a longer one that repeats a key: the item above it is
reported for being too deep, and what the list holds is not looked at. -/
theorem NestedChecklist.violations_outline_replaced :
    let item (key : String) (children : List NestedItem) : NestedItem :=
      .mk key "Label" "checkbox" false children
    let c : NestedChecklist := { items := [item "a" [item "b" []]] }
    let c' : NestedChecklist := { items := [item "a" [item "a" [], item "a" []]] }
    NestedItem.listAt? [0] c.items = some [item "b" []] ∧
      NestedItem.setList [item "a" [], item "a" []] [0] c.items = c'.items ∧
      c.violations 1 .root = [⟨((Path.root.item "items" 0).field "children"), .tooDeep 1⟩] ∧
      c'.violations 1 .root = c.violations 1 .root := by
  intro item c c'
  have replaced := (violations_outline 1 .root c).2.2 [0] [item "b" []]
    [item "a" [], item "a" []] (Nat.le_refl 1) rfl (List.cons_ne_nil _ _) (List.cons_ne_nil _ _)
  exact ⟨rfl, rfl, by decide, replaced⟩

end EntryForm
