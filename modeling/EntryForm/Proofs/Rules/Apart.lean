import EntryForm.Proofs.Rules.Places

/-!
# Proofs — Rules — reports apart

A value can be reported for what it is by itself, for its name being used again, and for being a
payload that has no place: three layers (`Violation.Layer`).

* `Violation.Apart`: two reports differ in place or in layer.
* `Within q vs`: the reports `vs` are apart and stand at `q` or below it.  `Below p names vs`: they
  stand below some of the fields `names` of the record at `p`.  Reports below different names are
  apart, so the report on a record is put together by `Below.append`, and that on a list by
  `within_siblings`.
* `Single q vs`: one report at most, on the value at `q` by itself.
-/

namespace EntryForm
open Rules Wire

/-! ### Layers -/

/-- What is wrong with a value: itself, that its name is used again, or that it has no place. -/
inductive Violation.Layer where
  | own | repetition | excess
  deriving DecidableEq, Repr

/-- The layer of a kind of defect. -/
def Violation.Kind.layer : Violation.Kind → Violation.Layer
  | .duplicateIdentifier => .repetition
  | .unexpectedPayload => .excess
  | .missingField | .unknownWidgetType | .missingPayload | .emptyCollection | .patternMismatch
  | .outOfRange | .invalidOption | .nestingTooDeep => .own

/-- The violations are reported at different places or in different layers. -/
def Violation.Apart (u v : Violation) : Prop := u.path = v.path → u.kind.layer ≠ v.kind.layer

/-- Names are used again only where there are names, and payloads without a place stand under the
name of a kind. -/
def Violation.Named (v : Violation) : Prop :=
  v.kind.layer = .own ∨ ∃ (q : Path) (name : String), v.path = q.field name ∧
    (v.kind.layer = .repetition ∧ name ∈ ["id", "key", "value"] ∨
      v.kind.layer = .excess ∧ ∃ kind : EntryForm.Kind, name = kind.name)

/-- A defect of a value by itself is no payload without a place. -/
theorem Violation.Kind.OfValue.layer_ne {k : Violation.Kind} (h : k.OfValue) :
    k.layer ≠ .excess := by
  cases k <;> first | exact absurd rfl h.2.1 | decide

/-! ### Places below one another -/

/-- What stands at or below two next steps from one place shows that they are the same. -/
theorem Path.step_eq_of_below {steps rest : List Step} {s t : Step}
    (hs : steps ++ [s] <+: rest) (ht : steps ++ [t] <+: rest) : s = t := by
  have same := (List.prefix_of_prefix_length_le hs ht (by simp)).eq_of_length (by simp)
  exact List.singleton_inj.mp (List.append_cancel_left same)

/-- A path goes on with one key only. -/
theorem Path.name_eq_of_below {p : Path} {name other : String} {rest : List Step}
    (h : (p.field name).steps <+: rest) (h' : (p.field other).steps <+: rest) : name = other :=
  Step.field.inj (step_eq_of_below h h')

theorem Path.field_inj {p q : Path} {name other : String} (h : p.field name = q.field other) :
    name = other := by
  have steps := List.append_inj_right' (congrArg Path.steps h) rfl
  exact Step.field.inj (List.singleton_inj.mp steps)

/-- A path goes on with one index only. -/
theorem Path.index_eq_of_below {p : Path} {i j : Nat} {rest : List Step}
    (h : (p.index i).steps <+: rest) (h' : (p.index j).steps <+: rest) : i = j :=
  Step.index.inj (step_eq_of_below h h')

theorem Path.prefix_field (p : Path) (name : String) : p.steps <+: (p.field name).steps :=
  List.prefix_append _ _

theorem Path.prefix_index (p : Path) (i : Nat) : p.steps <+: (p.index i).steps :=
  List.prefix_append _ _

/-- What a shape leads to stands below it. -/
theorem Wire.Leads.below {kind : Violation.Kind} {s : Shape} {j : Json} {p q : Path}
    (h : Leads kind s j p q) : p.steps <+: q.steps := by
  obtain ⟨rest, -, hq, -⟩ := h
  exact ⟨rest, hq.symm⟩

namespace Rules

/-- The reports are apart, and stand at `q` or below it. -/
structure Within (q : Path) (vs : List Violation) : Prop where
  apart : vs.Pairwise Violation.Apart
  within : ∀ v ∈ vs, q.steps <+: v.path.steps
  named : ∀ v ∈ vs, v.Named

/-- The reports are apart, and stand below fields of the record at `p` that are among the names. -/
structure Below (p : Path) (names : List String) (vs : List Violation) : Prop where
  apart : vs.Pairwise Violation.Apart
  below : ∀ v ∈ vs, ∃ name ∈ names, (p.field name).steps <+: v.path.steps
  named : ∀ v ∈ vs, v.Named

variable {p q : Path} {names others : List String} {vs xs ys : List Violation}

/-- What stands below keys of a record stands within the record. -/
theorem Below.within (h : Below p names vs) : Within p vs where
  apart := h.apart
  within v hv := by
    obtain ⟨name, -, hname⟩ := h.below v hv
    exact (p.prefix_field name).trans hname
  named := h.named

/-- What stands within a value stands below its key in the record. -/
theorem Within.below {name : String} (h : Within (p.field name) vs) : Below p [name] vs where
  apart := h.apart
  below v hv := ⟨name, List.mem_singleton_self name, h.within v hv⟩
  named := h.named

/-- What stands within a value stands within all that holds it. -/
theorem Within.mono (h : Within q vs) (hp : p.steps <+: q.steps) : Within p vs where
  apart := h.apart
  within v hv := hp.trans (h.within v hv)
  named := h.named

/-- More keys do no harm. -/
theorem Below.mono (h : Below p names vs) (hn : names ⊆ others) : Below p others vs where
  apart := h.apart
  below v hv := by
    obtain ⟨name, hname, hpath⟩ := h.below v hv
    exact ⟨name, hn hname, hpath⟩
  named := h.named

/-- No report stands below a key that is not among the names. -/
theorem Below.not_mem {name : String} {v : Violation} (h : Below p names vs) (hname : name ∉ names)
    (hv : (p.field name).steps <+: v.path.steps) : v ∉ vs := by
  intro hmem
  obtain ⟨other, hother, hbelow⟩ := h.below v hmem
  exact hname (Path.name_eq_of_below hbelow hv ▸ hother)

theorem within_nil (q : Path) : Within q [] := ⟨.nil, nofun, nofun⟩

/-- Reports that differ in place or layer may follow one another. -/
theorem Within.append (hx : Within p xs) (hy : Within p ys)
    (h : ∀ u ∈ xs, ∀ v ∈ ys, u.Apart v) : Within p (xs ++ ys) where
  apart := List.pairwise_append.mpr ⟨hx.apart, hy.apart, h⟩
  within := List.forall_mem_append.mpr ⟨hx.within, hy.within⟩
  named := List.forall_mem_append.mpr ⟨hx.named, hy.named⟩

/-- Reports below other names stand at other places. -/
theorem Below.append (hx : Below p names xs) (hy : Below p others ys)
    (h : ∀ name ∈ names, name ∉ others) : Below p (names ++ others) (xs ++ ys) where
  apart := by
    refine List.pairwise_append.mpr ⟨hx.apart, hy.apart, fun u hu v hv path => ?_⟩
    obtain ⟨name, hname, hu⟩ := hx.below u hu
    obtain ⟨other, hother, hv⟩ := hy.below v hv
    rw [path] at hu
    exact absurd hother (Path.name_eq_of_below hu hv ▸ h name hname)
  below := List.forall_mem_append.mpr
    ⟨(hx.mono (List.subset_append_left _ _)).below, (hy.mono (List.subset_append_right _ _)).below⟩
  named := List.forall_mem_append.mpr ⟨hx.named, hy.named⟩

/-! ### One value -/

/-- One report at most, on the value at `q` by itself. -/
structure Single (q : Path) (vs : List Violation) : Prop where
  one : vs.length ≤ 1
  own : ∀ v ∈ vs, v.path = q ∧ v.kind.layer = .own

/-- A report on a value stands within it. -/
theorem Single.within (h : Single q vs) : Within q vs where
  apart := by
    match vs, h.one with
    | [], _ => exact .nil
    | [v], _ => exact List.pairwise_singleton _ v
  within v hv := (h.own v hv).1 ▸ List.prefix_refl _
  named v hv := .inl (h.own v hv).2

/-- A report on the value under a key stands below the key. -/
theorem Single.below {name : String} (h : Single (p.field name) vs) : Below p [name] vs :=
  h.within.below

theorem single_nil (q : Path) : Single q [] := ⟨Nat.zero_le 1, nofun⟩

theorem single_singleton {c : Cause} (hc : c.kind.layer = .own) : Single q [⟨q, c⟩] where
  one := Nat.le_refl 1
  own v hv := by
    obtain rfl := List.mem_singleton.mp hv
    exact ⟨rfl, hc⟩

/-- A check reports once, on its own value. -/
theorem single_reportIf {b : Bool} {c : Cause} (hc : c.kind.layer = .own) :
    Single q (reportIf b q c) := by
  cases b with
  | false => exact single_nil q
  | true => exact single_singleton hc

theorem single_notBlank (what value : String) : Single q (notBlank what value q) :=
  single_reportIf rfl

theorem single_identifier (what value : String) : Single q (identifier what value q) := by
  unfold identifier
  split
  · exact single_singleton rfl
  · exact single_reportIf rfl

theorem single_oneOf (what value : String) (allowed : List String) :
    Single q (oneOf what allowed value q) :=
  single_reportIf rfl

theorem single_between (low high : Int) (value : Count) : Single q (between low high value q) :=
  single_reportIf rfl

theorem single_notNegative (value : Option Count) : Single q (notNegative value q) := by
  cases value with
  | none => exact single_nil q
  | some n => exact single_reportIf rfl

theorem single_positive (name : String) (value : Option Count) :
    Single q (positive name value q) := by
  cases value with
  | none => exact single_nil q
  | some n => exact single_reportIf rfl

/-- Crossed bounds are reported once, at the upper one. -/
theorem single_ordered (upper lower : String) (high low : Option Count) :
    Single q (ordered upper high lower low q) := by
  cases low with
  | none => exact single_nil q
  | some l =>
      cases high with
      | none => exact single_nil q
      | some h => exact single_reportIf rfl

theorem single_atMostChars (limit : Nat) (value : Option String) :
    Single q (atMostChars limit value q) := by
  cases value with
  | none => exact single_nil q
  | some s => exact single_reportIf rfl

theorem single_timeOfDay (wellFormed : String → Bool) (expected : String)
    (value : Option String) : Single q (timeOfDay wellFormed expected value q) := by
  cases value with
  | none => exact single_nil q
  | some s => exact single_reportIf rfl

/-! ### Bounds -/

/-- A comparison that is made only once the bound has passed its own check adds no second report. -/
theorem Single.append_gated {gate : Bool} (hx : Single q xs) (hy : Single q ys)
    (hg : gate = true → xs = []) : Single q (xs ++ if gate then ys else []) := by
  cases gate with
  | false =>
      rw [if_neg Bool.false_ne_true, List.append_nil]
      exact hx
  | true =>
      -- the gate is open only where the bound alone gave no report
      rw [hg rfl, if_pos rfl, List.nil_append]
      exact hy

/-- Of a count and its order with the lower bound, one at most is reported. -/
theorem single_countBound (upper lower : String) (high low : Option Count) :
    Single q (notNegative high q ++
      if isCount low && isCount high then ordered upper high lower low q else []) :=
  (single_notNegative high).append_gated (single_ordered upper lower high low) fun hg =>
    notNegative_eq_nil.mpr (isCount_iff.mp (Bool.and_eq_true_iff.mp hg).2)

/-- Of a positive count and its order with the lower bound, one at most is reported. -/
theorem single_positiveBound (upper lower : String) (high low : Option Count) :
    Single q (positive upper high q ++
      if isCount low && isPositive high then ordered upper high lower low q else []) :=
  (single_positive upper high).append_gated (single_ordered upper lower high low) fun hg =>
    positive_eq_nil.mpr (isPositive_iff.mp (Bool.and_eq_true_iff.mp hg).2)

/-! ### Names -/

/-- The report of a repeated name stands at the name. -/
theorem repeated_of_mem {b : Bool} {c : Cause} (hc : c.kind = .duplicateIdentifier)
    {v : Violation} (hv : v ∈ reportIf b q c) : v.path = q ∧ v.kind.layer = .repetition := by
  obtain ⟨-, rfl⟩ := mem_reportIf.mp hv
  exact ⟨rfl, by rw [Violation.kind, hc]; rfl⟩

/-- The report that a name is used again. -/
theorem within_repeated {b : Bool} {c : Cause} {name : String} (hname : name ∈ ["id", "key", "value"])
    (hc : c.kind = .duplicateIdentifier) : Within (p.field name) (reportIf b (p.field name) c) where
  apart := by
    cases b with
    | false => exact .nil
    | true => exact List.pairwise_singleton _ _
  within v hv := (repeated_of_mem hc hv).1 ▸ List.prefix_refl _
  named v hv := by
    obtain ⟨path, layer⟩ := repeated_of_mem hc hv
    exact .inr ⟨p, name, path, .inl ⟨layer, hname⟩⟩

/-- A name is checked by itself, and then for its use elsewhere. -/
theorem within_name {b : Bool} {c : Cause} {name : String} (hx : Single (p.field name) xs)
    (hname : name ∈ ["id", "key", "value"]) (hc : c.kind = .duplicateIdentifier) :
    Within (p.field name) (xs ++ reportIf b (p.field name) c) := by
  refine hx.within.append (within_repeated hname hc) fun u hu v hv _ => ?_
  rw [(hx.own u hu).2, (repeated_of_mem hc hv).2]
  decide

/-- A local name has one report on its form and one on its repetition at most. -/
theorem within_localIdentifier {name : String} (what value : String) (again : Bool)
    (hname : name ∈ ["id", "key", "value"]) :
    Within (p.field name) (localIdentifier what value again (p.field name)) :=
  within_name (single_identifier what value) hname rfl

/-- The repetition may be reported first. -/
theorem within_notRepeated (what what' value : String) (again : Bool) :
    Within (p.field "id") (notRepeated what value again (p.field "id") ++
      identifier what' value (p.field "id")) := by
  have own := single_identifier (q := p.field "id") what' value
  refine (within_repeated (by decide) rfl).append own.within fun u hu v hv _ => ?_
  rw [(repeated_of_mem rfl hu).2, (own.own v hv).2]
  decide

/-! ### The elements of a list -/

/-- What stands below different elements of a list is at different places. -/
theorem pairwise_flatMap_zipIdx {α β : Type} {R : β → β → Prop} (place : β → Path) {zs : List α}
    {g : α × Nat → List β}
    (hplace : ∀ e ∈ zs.zipIdx, ∀ b ∈ g e, (q.index e.2).steps <+: (place b).steps)
    (hg : ∀ e ∈ zs.zipIdx, (g e).Pairwise R) (hR : ∀ {b c}, place b ≠ place c → R b c) :
    (zs.zipIdx.flatMap g).Pairwise R := by
  refine List.pairwise_flatMap.mpr ⟨hg, ?_⟩
  have positions : zs.zipIdx.Pairwise fun e e' => e.2 ≠ e'.2 := by
    have : (zs.zipIdx.map Prod.snd).Nodup := by
      rw [List.zipIdx_map_snd]
      exact List.nodup_range'
    exact List.pairwise_map.mp this
  -- a place they share would be below both indexes
  refine positions.imp_of_mem fun he he' hne b hb c hc => hR fun same => hne ?_
  exact Path.index_eq_of_below (hplace _ he b hb) (same ▸ hplace _ he' c hc)

/-- The reports on the elements of a list are apart if those on each element are. -/
theorem within_siblings {α : Type} {key : α → String} {check : Nat → Bool → α → List Violation}
    {zs : List α} (h : ∀ i again x, x ∈ zs → Within (q.index i) (check i again x)) :
    Within q (siblings key check zs) := by
  have each : ∀ v ∈ siblings key check zs, ∃ i again x,
      Within (q.index i) (check i again x) ∧ v ∈ check i again x := by
    intro v hv
    obtain ⟨i, x, hx, hv⟩ := mem_siblings.mp hv
    exact ⟨i, _, x, h i _ x (List.mem_of_getElem? hx), hv⟩
  refine ⟨?_, fun v hv => ?_, fun v hv => ?_⟩
  · rw [siblings_eq_flatMap]
    have element : ∀ e ∈ zs.zipIdx,
        Within (q.index e.2) (check e.2 (repeatsBefore key zs e.2 e.1) e.1) :=
      fun e he => h _ _ _ (List.mem_of_getElem? (List.mk_mem_zipIdx_iff_getElem?.mp he))
    exact pairwise_flatMap_zipIdx Violation.path (fun e he => (element e he).within)
      (fun e he => (element e he).apart) fun hne path => absurd path hne
  · obtain ⟨i, again, x, hwithin, hv⟩ := each v hv
    exact (q.prefix_index i).trans (hwithin.within v hv)
  · obtain ⟨i, again, x, hwithin, hv⟩ := each v hv
    exact hwithin.named v hv

/-- A list that is empty has no elements to report on. -/
theorem within_list {α : Type} {key : α → String} {check : Nat → Bool → α → List Violation}
    {zs : List α} {c : Collection}
    (h : ∀ i again x, x ∈ zs → Within (q.index i) (check i again x)) :
    Within q (reportIf zs.isEmpty q (.emptyCollection c) ++ siblings key check zs) := by
  cases zs with
  | nil => exact (single_singleton rfl).within
  | cons x rest => exact within_siblings h

end Rules

end EntryForm
