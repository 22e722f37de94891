import Mathlib.Data.List.Flatten
import EntryForm.Proofs.Rules.Parts

/-!
# Proofs — Rules — the ceiling

A nested checklist is looked into down to a ceiling.  A higher ceiling brings more reports, and
takes none back but those that say that the ceiling was reached.

Two walks over the same items, under a lower and a higher ceiling, do not carry the same keys: the
deeper one has met keys that the other has not seen.  It may find an item's key repeated where the
other does not, but never the other way round.  So the keys of the one being among those of the
other is what one step keeps (`KeyWalk.Within`, `NestedItem.walk_within`).

* `NestedItem.walk_within`, `NestedItem.walk_congr`: under the lower ceiling a walk reports no more,
  nesting apart; and it is the same walk if it does not reach the ceiling.
* `Widget.sublist_of_le`, `Widget.violations_congr`: so of widgets.
* `Form.findings_ceiling`: so of forms.
-/

namespace EntryForm
open Rules

/-- The report is not that a checklist nests too deep. -/
def Violation.notNesting (v : Violation) : Bool := v.kind != .nestingTooDeep

/-- The lists of items that are reported are not among the reports. -/
def Shallow (vs : List Violation) : Prop := ∀ v ∈ vs, v.kind ≠ .nestingTooDeep

/-- That a list of items is too deep does not count. -/
theorem filter_concat_tooDeep (vs : List Violation) (p : Path) (ceiling : Nat) :
    (vs ++ [(⟨p, .tooDeep ceiling⟩ : Violation)]).filter Violation.notNesting =
      vs.filter Violation.notNesting := by
  rw [List.filter_append]
  exact List.append_nil _

/-- Two lists of reports are shallow together if each is. -/
theorem shallow_append {vs ws : List Violation} : Shallow (vs ++ ws) ↔ Shallow vs ∧ Shallow ws :=
  List.forall_mem_append

/-! ### Items -/

/-- Of two walks, the first reports no more than the second, nesting apart, and has met no more
keys. -/
structure KeyWalk.Within (w w' : KeyWalk) : Prop where
  violations : (w.violations.filter Violation.notNesting).Sublist w'.violations
  keys : w.keys ⊆ w'.keys

variable {low high : Nat}

/-- An item reports no less when its key counts as repeated. -/
theorem NestedItem.ownViolations_sublist {p : Path} {again again' : Bool} (item : NestedItem)
    (h : again = true → again' = true) :
    ((item.ownViolations p again).filter Violation.notNesting).Sublist
      (item.ownViolations p again') := by
  have repeated : (reportIf (again && !item.key.isEmpty) (p.field "key")
      (.repeated "item key" item.key)).Sublist
        (reportIf (again' && !item.key.isEmpty) (p.field "key") (.repeated "item key" item.key)) := by
    cases again with
    | false => exact List.nil_sublist _
    | true => rw [h rfl]
  refine List.filter_sublist.trans ?_
  unfold ownViolations localIdentifier
  exact (((List.Sublist.refl _).append repeated).append (List.Sublist.refl _)).append
    (List.Sublist.refl _)

mutual

/-- A walk keeps the keys it is given. -/
theorem NestedItem.subset_keys (ceiling depth : Nat) (p : Path) (keys : List String) :
    ∀ item : NestedItem, keys ⊆ (item.walk ceiling depth p keys).keys
  | .mk key label itemType required children => by
    rw [walk]
    split
    · exact List.subset_cons_self key keys
    · split
      · exact List.subset_cons_self key keys
      · exact List.Subset.trans (List.subset_cons_self key keys)
          (subset_keys_list ceiling (depth + 1) _ 0 _ children)

/-- Walking items forgets no key. -/
theorem NestedItem.subset_keys_list (ceiling depth : Nat) (p : Path) (i : Nat)
    (keys : List String) :
    ∀ items : List NestedItem, keys ⊆ (walkList ceiling depth p i keys items).keys
  | [] => List.Subset.refl keys
  | item :: rest => by
    rw [walkList]
    exact List.Subset.trans (subset_keys ceiling depth _ keys item)
      (subset_keys_list ceiling depth p (i + 1) _ rest)

end

mutual

/-- Below a higher ceiling, and with more keys met, an item reports no less, nesting apart. -/
theorem NestedItem.walk_within (hle : low ≤ high) (depth : Nat) (p : Path)
    {keys keys' : List String} (hkeys : keys ⊆ keys') : ∀ item : NestedItem,
      (item.walk low depth p keys).Within (item.walk high depth p keys')
  | .mk key label itemType required children => by
    have again : keys.contains key = true → keys'.contains key = true := by
      rw [List.contains_iff_mem, List.contains_iff_mem]
      exact fun h => hkeys h
    have own := (NestedItem.mk key label itemType required children).ownViolations_sublist
      (p := p) again
    have hcons : key :: keys ⊆ key :: keys' := List.cons_subset_cons key hkeys
    rw [walk, walk]
    by_cases leaf : children.isEmpty = true
    · rw [if_pos leaf, if_pos leaf]
      exact ⟨own, hcons⟩
    · rw [if_neg leaf, if_neg leaf]
      by_cases reached : low < depth + 1
      · -- the items below are only seen under the higher ceiling, if at all
        rw [if_pos reached]
        split
        · refine ⟨?_, hcons⟩
          rw [filter_concat_tooDeep]
          exact own.trans (List.sublist_append_left _ _)
        · refine ⟨?_, List.Subset.trans hcons
            (subset_keys_list high (depth + 1) _ 0 _ children)⟩
          rw [filter_concat_tooDeep]
          exact own.trans (List.sublist_append_left _ _)
      · rw [if_neg reached, if_neg (by omega)]
        have below := walkList_within hle (depth + 1) (p.field "children") 0 hcons children
        refine ⟨?_, below.keys⟩
        rw [List.filter_append]
        exact own.append below.violations

/-- So do the items of a list. -/
theorem NestedItem.walkList_within (hle : low ≤ high) (depth : Nat) (p : Path) (i : Nat)
    {keys keys' : List String} (hkeys : keys ⊆ keys') : ∀ items : List NestedItem,
      (walkList low depth p i keys items).Within (walkList high depth p i keys' items)
  | [] => ⟨List.nil_sublist _, hkeys⟩
  | item :: rest => by
    have first := walk_within hle depth (p.index i) hkeys item
    have others := walkList_within hle depth p (i + 1) first.keys rest
    rw [walkList, walkList]
    refine ⟨?_, others.keys⟩
    rw [List.filter_append]
    exact first.violations.append others.violations

end

mutual

/-- A walk that does not reach the ceiling is the walk under any higher one. -/
theorem NestedItem.walk_congr (hle : low ≤ high) (depth : Nat) (p : Path) (keys : List String) :
    ∀ item : NestedItem, Shallow (item.walk low depth p keys).violations →
      item.walk high depth p keys = item.walk low depth p keys
  | .mk key label itemType required children => by
    intro shallow
    rw [walk] at shallow ⊢
    rw [walk]
    by_cases leaf : children.isEmpty = true
    · rw [if_pos leaf, if_pos leaf]
    · rw [if_neg leaf] at shallow ⊢
      rw [if_neg leaf]
      by_cases reached : low < depth + 1
      · rw [if_pos reached] at shallow
        have deep := (shallow_append.mp shallow).2
        exact absurd rfl (deep _ (List.mem_singleton_self _))
      · rw [if_neg reached] at shallow ⊢
        rw [if_neg (by omega)]
        have below := (shallow_append.mp shallow).2
        simp only [walkList_congr hle (depth + 1) _ 0 _ children below]

/-- Where the lower ceiling is not exceeded, the higher one walks the items alike. -/
theorem NestedItem.walkList_congr (hle : low ≤ high) (depth : Nat) (p : Path) (i : Nat)
    (keys : List String) : ∀ items : List NestedItem,
      Shallow (walkList low depth p i keys items).violations →
        walkList high depth p i keys items = walkList low depth p i keys items
  | [] => fun _ => rfl
  | item :: rest => by
    intro shallow
    rw [walkList] at shallow ⊢
    rw [walkList]
    obtain ⟨first, others⟩ := shallow_append.mp shallow
    simp only [walk_congr hle depth _ keys item first,
      walkList_congr hle depth p (i + 1) _ rest others]

end

/-! ### Checklists -/

/-- Below a higher ceiling a checklist reports no less, nesting apart. -/
theorem NestedChecklist.itemViolations_sublist (hle : low ≤ high) (p : Path)
    (items : List NestedItem) : ((itemViolations low p items).filter Violation.notNesting).Sublist
      (itemViolations high p items) := by
  unfold itemViolations
  by_cases none : items.isEmpty = true
  · rw [if_pos none, if_pos none]
    exact List.nil_sublist _
  · rw [if_neg none, if_neg none]
    by_cases reached : low < 1
    · rw [if_pos reached]
      exact List.nil_sublist _
    · rw [if_neg reached, if_neg (by omega)]
      exact (NestedItem.walkList_within hle 1 p 0 (List.Subset.refl []) items).violations

/-- Where the lower ceiling is not exceeded, the higher one reports the same. -/
theorem NestedChecklist.itemViolations_congr (hle : low ≤ high) (p : Path)
    (items : List NestedItem) (shallow : Shallow (itemViolations low p items)) :
    itemViolations high p items = itemViolations low p items := by
  unfold itemViolations at shallow ⊢
  by_cases none : items.isEmpty = true
  · rw [if_pos none, if_pos none]
  · rw [if_neg none] at shallow ⊢
    rw [if_neg none]
    by_cases reached : low < 1
    · rw [if_pos reached] at shallow
      exact absurd rfl (shallow _ (List.mem_singleton_self _))
    · rw [if_neg reached] at shallow ⊢
      rw [if_neg (by omega), NestedItem.walkList_congr hle 1 p 0 [] items shallow]

/-! ### Widgets -/

section Widgets

variable {e : Exclusivity} {p : Path}

/-- Of all payloads only a nested checklist depends on the ceiling, and reports no less below a
higher one. -/
theorem Payload.sublist_of_le (hle : low ≤ high) (data : Payload) :
    ((data.violations ⟨low, e⟩ p).filter Violation.notNesting).Sublist
      (data.violations ⟨high, e⟩ p) := by
  cases data with
  | nestedChecklist c =>
      rw [violations, violations, NestedChecklist.violations, NestedChecklist.violations,
        List.filter_append]
      exact List.filter_sublist.append (NestedChecklist.itemViolations_sublist hle _ c.items)
  | _ => exact List.filter_sublist

/-- A payload that does not nest too deep has the same reports below a higher ceiling. -/
theorem Payload.violations_congr (hle : low ≤ high) (data : Payload)
    (shallow : Shallow (data.violations ⟨low, e⟩ p)) :
    data.violations ⟨high, e⟩ p = data.violations ⟨low, e⟩ p := by
  cases data with
  | nestedChecklist c =>
      have items := (shallow_append.mp shallow).2
      rw [violations, violations, NestedChecklist.violations, NestedChecklist.violations,
        NestedChecklist.itemViolations_congr hle _ c.items items]
  | _ => rfl

theorem Body.sublist_of_le (hle : low ≤ high) (b : Body) :
    ((b.violations ⟨low, e⟩ p).filter Violation.notNesting).Sublist (b.violations ⟨high, e⟩ p) := by
  cases b with
  | payload data => exact data.sublist_of_le hle
  | missing kind => exact List.filter_sublist
  | unknown raw => exact List.filter_sublist

theorem Body.violations_congr (hle : low ≤ high) (b : Body)
    (shallow : Shallow (b.violations ⟨low, e⟩ p)) :
    b.violations ⟨high, e⟩ p = b.violations ⟨low, e⟩ p := by
  cases b with
  | payload data => exact data.violations_congr hle shallow
  | missing kind => rfl
  | unknown raw => rfl

/-- A widget reports no less below a higher ceiling, nesting apart. -/
theorem Widget.sublist_of_le (hle : low ≤ high) (w : Widget) :
    ((w.violations ⟨low, e⟩ p).filter Violation.notNesting).Sublist
      (w.violations ⟨high, e⟩ p) := by
  rw [violations, violations, List.filter_append, List.filter_append]
  exact (List.filter_sublist.append (w.body.sublist_of_le hle)).append List.filter_sublist

/-- A widget in which nothing nests too deep has the same reports below a higher ceiling. -/
theorem Widget.violations_congr (hle : low ≤ high) (w : Widget)
    (shallow : Shallow (w.violations ⟨low, e⟩ p)) :
    w.violations ⟨high, e⟩ p = w.violations ⟨low, e⟩ p := by
  have body := (shallow_append.mp (shallow_append.mp shallow).1).2
  rw [violations, violations, w.body.violations_congr hle body]

end Widgets

/-! ### Forms -/

section Forms

variable (e : Exclusivity) (f : Form)

/-- A form reports no less below a higher ceiling, nesting apart. -/
theorem Form.sublist_of_le (hle : low ≤ high) :
    ((f.violations ⟨low, e⟩).filter Violation.notNesting).Sublist (f.violations ⟨high, e⟩) := by
  rw [violations_eq_parts, violations_eq_parts, List.filter_flatMap]
  refine List.Sublist.flatMap_right _ fun part _ => ?_
  cases part with
  | fixed vs => exact List.filter_sublist
  | widget w p => exact w.sublist_of_le hle

/-- A form in which nothing nests too deep has the same reports below a higher ceiling. -/
theorem Form.violations_congr (hle : low ≤ high) (shallow : Shallow (f.violations ⟨low, e⟩)) :
    f.violations ⟨high, e⟩ = f.violations ⟨low, e⟩ := by
  rw [violations_eq_parts] at shallow ⊢
  rw [violations_eq_parts]
  refine List.flatMap_congr fun part hpart => ?_
  have here : Shallow (part.violations ⟨low, e⟩) :=
    fun v hv => shallow v (List.mem_flatMap.mpr ⟨part, hpart, hv⟩)
  cases part with
  | fixed vs => rfl
  | widget w p => exact w.violations_congr hle here

end Forms

/-- Under a higher ceiling every report but those on nesting is there again, in the same order; and
if there is none on nesting, nothing else is found.  So a form stays valid under higher ceilings. -/
theorem Form.findings_ceiling (f : Form) (e : Exclusivity) {low high : Nat} (hle : low ≤ high) :
    let below := f.report ⟨low, e⟩
    let above := f.report ⟨high, e⟩
    (below.findings.filter fun g => g.kind != .nestingTooDeep).Sublist above.findings ∧
      ((∀ g ∈ below.findings, g.kind ≠ .nestingTooDeep) → above = below) ∧
      (below.valid = true → above.valid = true) := by
  intro below above
  have congr : (∀ g ∈ below.findings, g.kind ≠ .nestingTooDeep) → above = below := by
    intro none
    have shallow : Shallow (f.violations ⟨low, e⟩) :=
      fun v hv => none v.finding (List.mem_map_of_mem hv)
    show f.report _ = f.report _
    rw [report, report, f.violations_congr e hle shallow]
  refine ⟨?_, congr, ?_⟩
  · show (((f.violations _).map Violation.finding).filter _).Sublist _
    rw [List.filter_map]
    exact (f.sublist_of_le e hle).map Violation.finding
  · intro valid
    have none := (f.valid_iff_findings _).mp valid
    rw [congr (fun g hg => by rw [none] at hg; cases hg), valid]

/-- An item that is only seen under the higher ceiling has the key of one that comes later. -/
theorem Form.findings_ceiling_repeated :
    let items : List NestedItem :=
      [.mk "a" "A" "checkbox" false [.leaf "b" ""], .leaf "b" "B", .leaf "" "C"]
    let w : Widget := { id := "w", body := .payload (.nestedChecklist { items }) }
    let s : Section := { id := "s", title := "S", widgets := some [w] }
    let page : Page := { id := "p", title := "P", sections := some [s] }
    let f : Form := { id := "f", title := "F", version := "1", pages := [page] }
    let below := f.report ⟨1, .strict⟩
    let above := f.report ⟨2, .strict⟩
    1 ≤ 2 ∧ below.findings.length = 2 ∧ above.findings.length = 3 ∧
      (below.findings.filter fun g => g.kind != .nestingTooDeep).Sublist above.findings := by
  intro items w s page f below above
  exact ⟨by decide, by decide, by decide, (findings_ceiling f .strict (by decide)).1⟩

end EntryForm
