import Mathlib.Data.List.Basic
import EntryForm.Rules.Siblings
import EntryForm.Proofs.Text.Grammar

/-!
# Proofs — Rules — checks

What each check of `Rules.Value` and `Rules.Siblings` comes to.

* `…_eq_nil`: when a check has nothing to report, in terms of `Proofs.Text.Grammar` and of the
  order of the integers.
* `mem_…`: what a check reports when it does.  Every report of a check on a value stands at the
  place it is given and is about the value itself, not about which payloads a widget has
  (`IsAt`).
* `siblings_eq_flatMap`: the reports on a list are those on its elements in order, where element
  `i` counts as repeated when one of the first `i` elements has its key (`repeatsBefore`).
-/

namespace EntryForm

/-- A kind of defect that a value can have by itself. -/
def Violation.Kind.OfValue (k : Violation.Kind) : Prop :=
  k ≠ .missingPayload ∧ k ≠ .unexpectedPayload ∧ k ≠ .unknownWidgetType

/-- A defect of the value at `p`. -/
def Violation.IsAt (p : Path) (v : Violation) : Prop := v.path = p ∧ v.kind.OfValue

/-! ### Names met one after another -/

/-- The names differ from one another and from those met before. -/
def NewAfter (met names : List String) : Prop := names.Nodup ∧ ∀ name ∈ names, name ∉ met

/-- A name is new if it was not met, and the others are new once it is met too. -/
theorem newAfter_cons {met names : List String} {name : String} :
    NewAfter met (name :: names) ↔ name ∉ met ∧ NewAfter (name :: met) names := by
  rw [NewAfter, NewAfter, List.nodup_cons, List.forall_mem_cons]
  simp only [List.mem_cons, not_or]
  constructor
  · rintro ⟨⟨hname, hn⟩, hmet, hnames⟩
    exact ⟨hmet, hn, fun m hm => ⟨fun e => hname (e ▸ hm), hnames m hm⟩⟩
  · rintro ⟨hmet, hn, hnames⟩
    exact ⟨⟨fun hm => (hnames name hm).1 rfl, hn⟩, hmet, fun m hm => (hnames m hm).2⟩

/-- The later names are new after the earlier ones. -/
theorem newAfter_append {met names others : List String} : NewAfter met (names ++ others) ↔
    NewAfter met names ∧ NewAfter (names.reverse ++ met) others := by
  induction names generalizing met with
  | nil => simp [NewAfter]
  | cons name names ih =>
      rw [List.cons_append, newAfter_cons, newAfter_cons, ih, and_assoc, List.reverse_cons,
        List.append_assoc, List.singleton_append]

end EntryForm

namespace EntryForm.Rules
open EntryForm.Text

/-! ### One value -/

section Values

variable {p : Path} {v : Violation}

/-- A check reports nothing exactly if its condition fails. -/
theorem reportIf_eq_nil {b : Bool} {c : Cause} : reportIf b p c = [] ↔ b = false := by
  cases b <;> simp [reportIf]

theorem mem_reportIf {b : Bool} {c : Cause} : v ∈ reportIf b p c ↔ b = true ∧ v = ⟨p, c⟩ := by
  cases b <;> simp [reportIf]

/-- A report with a cause of that kind is a defect of the value it stands at. -/
theorem isAt_of_mem_reportIf {b : Bool} {c : Cause} (hc : c.kind.OfValue)
    (hv : v ∈ reportIf b p c) : v.IsAt p := by
  obtain ⟨-, rfl⟩ := mem_reportIf.mp hv
  exact ⟨rfl, hc⟩

/-- An empty list is reported where it stands. -/
theorem mem_reportIf_empty {b : Bool} {list : Collection}
    (hv : v ∈ reportIf b p (.emptyCollection list)) : v.IsAt p :=
  isAt_of_mem_reportIf (by simp [Cause.kind, Violation.Kind.OfValue]) hv

/-- A text passes exactly if there is something to read in it. -/
theorem notBlank_eq_nil {what value : String} : notBlank what value p = [] ↔ Legible value := by
  rw [notBlank, reportIf_eq_nil, isBlank_eq_false_iff]

/-- A blank text is reported as a defect of its own. -/
theorem mem_notBlank {what value : String} (hv : v ∈ notBlank what value p) : v.IsAt p :=
  isAt_of_mem_reportIf (by simp [Cause.kind, Violation.Kind.OfValue]) hv

/-- A name passes exactly if it is an identifier. -/
theorem identifier_eq_nil {what value : String} :
    identifier what value p = [] ↔ Identifier value := by
  unfold identifier
  split
  · next h =>
    -- an empty text is reported in other words
    have : ¬ Identifier value := fun hi => hi.1 (String.isEmpty_iff.mp h)
    simp [this]
  · rw [reportIf_eq_nil, Bool.not_eq_false', isIdentifier_iff]

theorem mem_identifier {what value : String} (hv : v ∈ identifier what value p) : v.IsAt p := by
  unfold identifier at hv
  split at hv
  · obtain rfl := List.mem_singleton.mp hv
    exact ⟨rfl, by simp [Cause.kind, Violation.kind, Violation.Kind.OfValue]⟩
  · exact isAt_of_mem_reportIf (by simp [Cause.kind, Violation.Kind.OfValue]) hv

/-- A value passes exactly if it is allowed. -/
theorem oneOf_eq_nil {what value : String} {allowed : List String} :
    oneOf what allowed value p = [] ↔ value ∈ allowed := by
  rw [oneOf, reportIf_eq_nil, Bool.not_eq_false', List.contains_iff_mem]

theorem mem_oneOf {what value : String} {allowed : List String}
    (hv : v ∈ oneOf what allowed value p) : v.IsAt p :=
  isAt_of_mem_reportIf (by simp [Cause.kind, Violation.Kind.OfValue]) hv

/-- A count passes exactly if it lies between the bounds, ends included. -/
theorem between_eq_nil {low high : Int} {value : Count} :
    between low high value p = [] ↔ low ≤ value.toInt ∧ value.toInt ≤ high := by
  rw [between, reportIf_eq_nil, Bool.not_eq_false', Bool.and_eq_true, decide_eq_true_eq,
    decide_eq_true_eq]

theorem mem_between {low high : Int} {value : Count} (hv : v ∈ between low high value p) :
    v.IsAt p :=
  isAt_of_mem_reportIf (by simp [Cause.kind, Violation.Kind.OfValue]) hv

/-! ### A value that may be absent -/

/-- A count passes if it is absent or not negative. -/
theorem notNegative_eq_nil {value : Option Count} :
    notNegative value p = [] ↔ ∀ n ∈ value, 0 ≤ n.toInt := by
  cases value with
  | none => simp [notNegative]
  | some n => simp [notNegative, reportIf_eq_nil]

/-- A report on a count is on one that is given. -/
theorem mem_notNegative {value : Option Count} (hv : v ∈ notNegative value p) :
    v.IsAt p ∧ ∃ given, value = some given := by
  cases value with
  | none => cases hv
  | some n =>
      exact ⟨isAt_of_mem_reportIf (by simp [Cause.kind, Violation.Kind.OfValue]) hv, n, rfl⟩

theorem positive_eq_nil {name : String} {value : Option Count} :
    positive name value p = [] ↔ ∀ n ∈ value, 1 ≤ n.toInt := by
  cases value with
  | none => simp [positive]
  | some n => simp [positive, reportIf_eq_nil]

theorem mem_positive {name : String} {value : Option Count} (hv : v ∈ positive name value p) :
    v.IsAt p ∧ ∃ given, value = some given := by
  cases value with
  | none => cases hv
  | some n =>
      exact ⟨isAt_of_mem_reportIf (by simp [Cause.kind, Violation.Kind.OfValue]) hv, n, rfl⟩

/-- Two bounds pass if one is absent or they are not crossed. -/
theorem ordered_eq_nil {upper lower : String} {high low : Option Count} :
    ordered upper high lower low p = [] ↔ ∀ l ∈ low, ∀ h ∈ high, l.toInt ≤ h.toInt := by
  cases low <;> cases high <;> simp [ordered, reportIf_eq_nil]

/-- Crossed bounds are reported on the upper one, which is given. -/
theorem mem_ordered {upper lower : String} {high low : Option Count}
    (hv : v ∈ ordered upper high lower low p) : v.IsAt p ∧ ∃ given, high = some given := by
  cases low with
  | none => cases hv
  | some l =>
      cases high with
      | none => cases hv
      | some h =>
          exact ⟨isAt_of_mem_reportIf (by simp [Cause.kind, Violation.Kind.OfValue]) hv, h, rfl⟩

/-- A count to be compared is absent or not negative. -/
theorem isCount_iff {value : Option Count} : isCount value = true ↔ ∀ n ∈ value, 0 ≤ n.toInt := by
  cases value <;> simp [isCount]

/-- A positive count to be compared is absent or at least one. -/
theorem isPositive_iff {value : Option Count} :
    isPositive value = true ↔ ∀ n ∈ value, 1 ≤ n.toInt := by
  cases value <;> simp [isPositive]

/-- Two bounds are compared only once each has passed its own check, and nothing is lost by that
where nothing is reported. -/
theorem gated_ordered_eq_nil {upper lower : String} {high low : Option Count} {gate : Bool}
    (hg : gate = true) : (if gate then ordered upper high lower low p else []) = [] ↔
      ∀ l ∈ low, ∀ h ∈ high, l.toInt ≤ h.toInt := by
  rw [if_pos hg, ordered_eq_nil]

/-- What is reported behind a gate has passed it. -/
theorem mem_gated {gate : Bool} {vs : List Violation} (hv : v ∈ if gate then vs else []) :
    gate = true ∧ v ∈ vs := by
  cases gate with
  | false => cases hv
  | true => exact ⟨rfl, hv⟩

/-- A text passes if it is absent or short enough. -/
theorem atMostChars_eq_nil {limit : Nat} {value : Option String} :
    atMostChars limit value p = [] ↔ ∀ s ∈ value, s.length ≤ limit := by
  cases value with
  | none => simp [atMostChars]
  | some s => simp [atMostChars, reportIf_eq_nil]

theorem mem_atMostChars {limit : Nat} {value : Option String}
    (hv : v ∈ atMostChars limit value p) : v.IsAt p ∧ ∃ given, value = some given := by
  cases value with
  | none => cases hv
  | some s =>
      exact ⟨isAt_of_mem_reportIf (by simp [Cause.kind, Violation.Kind.OfValue]) hv, s, rfl⟩

/-- A value passes if it is absent or well formed. -/
theorem absentOr_iff {wellFormed : String → Bool} {value : Option String} :
    absentOr wellFormed value = true ↔ ∀ s ∈ value, wellFormed s = true := by
  cases value <;> simp [absentOr]

/-- A time passes if it is absent or written as it should be. -/
theorem timeOfDay_eq_nil {wellFormed : String → Bool} {expected : String}
    {value : Option String} :
    timeOfDay wellFormed expected value p = [] ↔ ∀ s ∈ value, wellFormed s = true := by
  cases value with
  | none => simp [timeOfDay]
  | some s => simp [timeOfDay, reportIf_eq_nil]

theorem mem_timeOfDay {wellFormed : String → Bool} {expected : String} {value : Option String}
    (hv : v ∈ timeOfDay wellFormed expected value p) : v.IsAt p ∧ ∃ given, value = some given := by
  cases value with
  | none => cases hv
  | some s =>
      exact ⟨isAt_of_mem_reportIf (by simp [Cause.kind, Violation.Kind.OfValue]) hv, s, rfl⟩

/-! ### A name among siblings -/

/-- A name that is not empty passes exactly if it is not used again. -/
theorem notRepeated_eq_nil {what value : String} {again : Bool} (hv : value ≠ "") :
    notRepeated what value again p = [] ↔ again = false := by
  have : value.isEmpty = false := by rw [← Bool.not_eq_true, String.isEmpty_iff]; exact hv
  rw [notRepeated, reportIf_eq_nil, this, Bool.not_false, Bool.and_true]

theorem mem_notRepeated {what value : String} {again : Bool}
    (hv : v ∈ notRepeated what value again p) : v.IsAt p :=
  isAt_of_mem_reportIf (by simp [Cause.kind, Violation.Kind.OfValue]) hv

/-- A local name passes exactly if it is new and an identifier. -/
theorem localIdentifier_eq_nil {what value : String} {again : Bool} :
    localIdentifier what value again p = [] ↔ again = false ∧ Identifier value := by
  rw [localIdentifier, List.append_eq_nil_iff, identifier_eq_nil, and_comm]
  exact and_congr_left fun h => notRepeated_eq_nil h.1

theorem mem_localIdentifier {what value : String} {again : Bool}
    (hv : v ∈ localIdentifier what value again p) : v.IsAt p :=
  (List.mem_append.mp hv).elim mem_identifier mem_notRepeated

end Values

/-! ### The elements of a list -/

section Lists

variable {α : Type} {key : α → String} {check : Nat → Bool → α → List Violation}

/-- Does an element before position `i` have the key of `x`? -/
def repeatsBefore (key : α → String) (xs : List α) (i : Nat) (x : α) : Bool :=
  (xs.take i).any fun y => key y == key x

theorem repeatsBefore_zero (xs : List α) (x : α) : repeatsBefore key xs 0 x = false := rfl

theorem repeatsBefore_cons (y : α) (xs : List α) (i : Nat) (x : α) :
    repeatsBefore key (y :: xs) (i + 1) x = (key y == key x || repeatsBefore key xs i x) := rfl

/-- An element repeats a key exactly if one before it has the key. -/
theorem repeatsBefore_iff {xs : List α} {i : Nat} {x : α} :
    repeatsBefore key xs i x = true ↔ ∃ m y, m < i ∧ xs[m]? = some y ∧ key y = key x := by
  simp only [repeatsBefore, List.any_eq_true, beq_iff_eq, List.mem_iff_getElem?]
  constructor
  · rintro ⟨y, ⟨m, hy⟩, hk⟩
    rw [List.getElem?_take] at hy
    split at hy
    · next hm => exact ⟨m, y, hm, hy, hk⟩
    · cases hy
  · rintro ⟨m, y, hm, hy, hk⟩
    exact ⟨y, ⟨m, by rw [List.getElem?_take, if_pos hm, hy]⟩, hk⟩

/-- Walking siblings is checking each at its position, told whether its key was met before. -/
theorem siblingsFrom_eq_flatMap (i : Nat) (seen : List String) (xs : List α) :
    siblingsFrom key check i seen xs = (xs.zipIdx i).flatMap fun e =>
      check e.2 (seen.contains (key e.1) || repeatsBefore key xs (e.2 - i) e.1) e.1 := by
  induction xs generalizing i seen with
  | nil => rfl
  | cons x rest ih =>
      -- for a later element, `x` is one of those seen; in the whole list it is one of those before
      rw [siblingsFrom, ih, List.zipIdx_cons, List.flatMap_cons, Nat.sub_self,
        repeatsBefore_zero, Bool.or_false]
      congr 1
      refine List.flatMap_congr fun e he => ?_
      have hi : e.2 - i = e.2 - (i + 1) + 1 := by
        have := List.le_snd_of_mem_zipIdx he
        omega
      rw [hi, repeatsBefore_cons, List.contains_cons, Bool.beq_comm, Bool.or_assoc,
        Bool.or_left_comm]

/-- The later siblings are checked with the keys of the earlier ones met. -/
theorem siblingsFrom_append (i : Nat) (seen : List String) (xs ys : List α) :
    siblingsFrom key check i seen (xs ++ ys) = siblingsFrom key check i seen xs ++
      siblingsFrom key check (i + xs.length) ((xs.map key).reverse ++ seen) ys := by
  induction xs generalizing i seen with
  | nil => rfl
  | cons x rest ih =>
      rw [List.cons_append, siblingsFrom, ih, siblingsFrom, List.append_assoc, List.length_cons,
        List.map_cons, List.reverse_cons, List.append_assoc, List.singleton_append,
        Nat.add_assoc, Nat.add_comm 1]

/-- The reports on a list, element by element. -/
theorem siblings_eq_flatMap (xs : List α) : siblings key check xs =
    xs.zipIdx.flatMap fun e => check e.2 (repeatsBefore key xs e.2 e.1) e.1 := by
  simp [siblings, siblingsFrom_eq_flatMap]

/-- One more element at the end is reported behind the others. -/
theorem siblings_concat (xs : List α) (x : α) : siblings key check (xs ++ [x]) =
    siblings key check xs ++ check xs.length (decide (key x ∈ xs.map key)) x := by
  rw [siblings, siblingsFrom_append, siblingsFrom, siblingsFrom, List.append_nil, List.append_nil,
    Nat.zero_add, List.contains_reverse, ← List.elem_eq_contains, List.elem_eq_mem]
  rfl

/-- A report on siblings is one on some element at its position. -/
theorem mem_siblings {v : Violation} {xs : List α} : v ∈ siblings key check xs ↔
    ∃ i x, xs[i]? = some x ∧ v ∈ check i (repeatsBefore key xs i x) x := by
  rw [siblings_eq_flatMap, List.mem_flatMap]
  constructor
  · rintro ⟨⟨x, i⟩, he, hv⟩
    exact ⟨i, x, List.mk_mem_zipIdx_iff_getElem?.mp he, hv⟩
  · rintro ⟨i, x, he, hv⟩
    exact ⟨(x, i), List.mk_mem_zipIdx_iff_getElem?.mpr he, hv⟩

/-- When an element is sound exactly if its key is new and it has the property `P`, a list is sound
exactly if its keys differ and every element has `P`. -/
theorem siblingsFrom_eq_nil {P : α → Prop}
    (hc : ∀ i again x, check i again x = [] ↔ again = false ∧ P x) (i : Nat) (seen : List String)
    (xs : List α) : siblingsFrom key check i seen xs = [] ↔
      NewAfter seen (xs.map key) ∧ ∀ x ∈ xs, P x := by
  induction xs generalizing i seen with
  | nil => simp [siblingsFrom, NewAfter]
  | cons x rest ih =>
      rw [siblingsFrom, List.append_eq_nil_iff, hc, ih, List.map_cons, newAfter_cons,
        List.forall_mem_cons, ← Bool.not_eq_true, List.contains_iff_mem]
      exact and_and_and_comm

/-- Siblings pass exactly if each is in order and their keys differ. -/
theorem siblings_eq_nil {P : α → Prop}
    (hc : ∀ i again x, check i again x = [] ↔ again = false ∧ P x) (xs : List α) :
    siblings key check xs = [] ↔ (∀ x ∈ xs, P x) ∧ (xs.map key).Nodup := by
  simp [siblings, siblingsFrom_eq_nil hc, NewAfter, and_comm]

/-- Where a check does not look at the keys, they need not differ. -/
theorem siblings_eq_nil_of_forall {P : α → Prop} (hc : ∀ i again x, check i again x = [] ↔ P x)
    (xs : List α) : siblings key check xs = [] ↔ ∀ x ∈ xs, P x := by
  suffices ∀ i seen, siblingsFrom key check i seen xs = [] ↔ ∀ x ∈ xs, P x from this 0 []
  induction xs with
  | nil => simp [siblingsFrom]
  | cons x rest ih =>
      intro i seen
      rw [siblingsFrom, List.append_eq_nil_iff, hc, ih, List.forall_mem_cons]

end Lists

end EntryForm.Rules
