import EntryForm.Proofs.WellFormed
import EntryForm.Proofs.Rules.Walk
import EntryForm.Proofs.Rules.Repetition

/-!
# Proofs — Rules — acceptance

A form without violations is a well-formed one, and a well-formed form has no violations.

Each record has a lemma `…violations_eq_nil`, which takes its checks one by one to the fields of
its `WellFormed`; a lemma of a record that holds others uses theirs.  The place does not matter.
`Form.valid_iff_wellFormed` puts them together.
-/

namespace EntryForm
open Rules Text

/-! ### Elements of lists -/

/-- An element that has a name of its own and a label. -/
theorem labelled_eq_nil {what what' id label : String} {again : Bool} {p q : Path} :
    localIdentifier what id again p ++ notBlank what' label q = [] ↔
      again = false ∧ Identifier id ∧ Legible label := by
  rw [List.append_eq_nil_iff, localIdentifier_eq_nil, notBlank_eq_nil, and_assoc]

/-- A column of a table or of a grid. -/
theorem column_eq_nil {what what' what'' id label type : String} {again : Bool} {p q r : Path} :
    localIdentifier what id again p ++ notBlank what' label q ++
        oneOf what'' Field.types type r = [] ↔
      again = false ∧ Identifier id ∧ Legible label ∧ FieldType type := by
  rw [List.append_eq_nil_iff, labelled_eq_nil, oneOf_eq_nil, and_assoc, and_assoc]
  rfl

/-- Bounds that are not negative are compared. -/
theorem counts_pass {low high : Option Count} (hl : AtLeast 0 low) (hh : AtLeast 0 high) :
    (isCount low && isCount high) = true := by
  rw [isCount_iff.mpr hl, isCount_iff.mpr hh, Bool.and_self]

/-- Bounds of which the upper one is positive are compared. -/
theorem countAndPositive_pass {low high : Option Count} (hl : AtLeast 0 low)
    (hh : AtLeast 1 high) : (isCount low && isPositive high) = true := by
  rw [isCount_iff.mpr hl, isPositive_iff.mpr hh, Bool.and_self]

/-! ### Payloads without nesting -/

/-- The bounds of a field pass unless the upper one is less than the lower one. -/
theorem Field.boundViolations_eq_nil (p : Path) (f : Field) :
    f.boundViolations p = [] ↔ ∀ low ∈ f.min, ∀ high ∈ f.max, ¬ high < low := by
  unfold Field.boundViolations
  split
  · next low high hmin hmax => simp [hmin, hmax, reportIf_eq_nil]
  · next h =>
    simp only [true_iff]
    exact fun low hl high hh => absurd hh (h low high hl)

/-- The lengths of a field pass if they are counts in order. -/
theorem Field.lengthViolations_eq_nil (p : Path) (f : Field) : f.lengthViolations p = [] ↔
    AtLeast 0 f.minLength ∧ AtLeast 0 f.maxLength ∧ InOrder f.minLength f.maxLength := by
  simp only [Field.lengthViolations, List.append_eq_nil_iff, notNegative_eq_nil]
  constructor
  · rintro ⟨⟨minLength, maxLength⟩, lengths⟩
    exact ⟨minLength, maxLength,
      (gated_ordered_eq_nil (counts_pass minLength maxLength)).mp lengths⟩
  · rintro ⟨minLength, maxLength, lengths⟩
    exact ⟨⟨minLength, maxLength⟩,
      (gated_ordered_eq_nil (counts_pass minLength maxLength)).mpr lengths⟩

/-- The pattern of a field passes if it compiles. -/
theorem Field.patternViolations_eq_nil (p : Path) (f : Field) :
    f.patternViolations p = [] ↔ ∀ text ∈ f.pattern, Compiles text := by
  unfold Field.patternViolations
  split
  · next h => simp [h]
  · next text h =>
    rw [h]
    simp only [Option.mem_some_iff, forall_eq', Compiles]
    split
    · next hd => simp [hd]
    · next hd => simp [hd]

/-- A field is accepted exactly if it is well formed. -/
theorem Field.violations_eq_nil (p : Path) (f : Field) : f.violations p = [] ↔ f.WellFormed := by
  simp only [Field.violations, List.append_eq_nil_iff, oneOf_eq_nil, Field.boundViolations_eq_nil,
    Field.lengthViolations_eq_nil, Field.patternViolations_eq_nil, reportIf_eq_nil,
    Bool.and_eq_false_imp, beq_iff_eq, List.isEmpty_eq_false_iff]
  constructor
  · rintro ⟨⟨⟨⟨type, bounds⟩, minLength, maxLength, lengths⟩, pattern⟩, options⟩
    exact ⟨type, bounds, minLength, maxLength, lengths, pattern, options⟩
  · rintro ⟨type, bounds, minLength, maxLength, lengths, pattern, options⟩
    exact ⟨⟨⟨⟨type, bounds⟩, minLength, maxLength, lengths⟩, pattern⟩, options⟩

/-- A group is accepted exactly if its layout is known and its fields are well formed and differ. -/
theorem Group.violations_eq_nil (p : Path) (g : Group) : g.violations p = [] ↔ g.WellFormed := by
  have element : ∀ i again (f : GroupField),
      localIdentifier "group field id" f.id again ((p.item "fields" i).field "id") ++
        f.field.violations (p.item "fields" i) = [] ↔ again = false ∧ f.WellFormed := by
    intro i again f
    rw [List.append_eq_nil_iff, localIdentifier_eq_nil, Field.violations_eq_nil, and_assoc]
    exact and_congr_right fun _ => ⟨fun ⟨id, field⟩ => ⟨id, field⟩, fun ⟨id, field⟩ => ⟨id, field⟩⟩
  rw [Group.violations, List.append_eq_nil_iff, oneOf_eq_nil, siblings_eq_nil element]
  exact ⟨fun ⟨layout, fields, distinct⟩ => ⟨layout, fields, distinct⟩,
    fun ⟨layout, fields, distinct⟩ => ⟨layout, fields, distinct⟩⟩

/-- The rules of a column, one by one. -/
theorem TableColumn.wellFormed_iff (c : TableColumn) :
    c.WellFormed ↔ Identifier c.id ∧ Legible c.label ∧ FieldType c.fieldType :=
  ⟨fun ⟨id, label, type⟩ => ⟨id, label, type⟩, fun ⟨id, label, type⟩ => ⟨id, label, type⟩⟩

/-- A table is accepted exactly if its columns differ and its counts of rows are in order. -/
theorem Table.violations_eq_nil (p : Path) (t : Table) : t.violations p = [] ↔ t.WellFormed := by
  simp only [Table.violations, List.append_eq_nil_iff, reportIf_eq_nil, List.isEmpty_eq_false_iff,
    siblings_eq_nil (fun _ _ (c : TableColumn) => column_eq_nil.trans
      (and_congr_right fun _ => c.wellFormed_iff.symm)), notNegative_eq_nil, positive_eq_nil]
  constructor
  · rintro ⟨⟨⟨⟨nonempty, columns, distinct⟩, minRows⟩, maxRows⟩, rows⟩
    exact ⟨nonempty, columns, distinct, minRows, maxRows,
      (gated_ordered_eq_nil (countAndPositive_pass minRows maxRows)).mp rows⟩
  · rintro ⟨nonempty, columns, distinct, minRows, maxRows, rows⟩
    exact ⟨⟨⟨⟨nonempty, columns, distinct⟩, minRows⟩, maxRows⟩,
      (gated_ordered_eq_nil (countAndPositive_pass minRows maxRows)).mpr rows⟩

theorem GridRow.wellFormed_iff (r : GridRow) : r.WellFormed ↔ Identifier r.id ∧ Legible r.label :=
  ⟨fun ⟨id, label⟩ => ⟨id, label⟩, fun ⟨id, label⟩ => ⟨id, label⟩⟩

theorem GridColumn.wellFormed_iff (c : GridColumn) :
    c.WellFormed ↔ Identifier c.id ∧ Legible c.label ∧ FieldType c.fieldType :=
  ⟨fun ⟨id, label, type⟩ => ⟨id, label, type⟩, fun ⟨id, label, type⟩ => ⟨id, label, type⟩⟩

/-- A grid is accepted exactly if its rows and columns are in order, each among its own. -/
theorem Grid.violations_eq_nil (p : Path) (g : Grid) : g.violations p = [] ↔ g.WellFormed := by
  rw [Grid.violations, List.append_eq_nil_iff,
    siblings_eq_nil (fun _ _ (r : GridRow) => labelled_eq_nil.trans
      (and_congr_right fun _ => r.wellFormed_iff.symm)),
    siblings_eq_nil (fun _ _ (c : GridColumn) => column_eq_nil.trans
      (and_congr_right fun _ => c.wellFormed_iff.symm))]
  exact ⟨fun ⟨⟨rows, rowsDistinct⟩, columns, columnsDistinct⟩ =>
      ⟨rows, rowsDistinct, columns, columnsDistinct⟩,
    fun ⟨rows, rowsDistinct, columns, columnsDistinct⟩ =>
      ⟨⟨rows, rowsDistinct⟩, columns, columnsDistinct⟩⟩

theorem ChecklistItem.wellFormed_iff (i : ChecklistItem) :
    i.WellFormed ↔ Identifier i.key ∧ Legible i.label :=
  ⟨fun ⟨key, label⟩ => ⟨key, label⟩, fun ⟨key, label⟩ => ⟨key, label⟩⟩

/-- A checklist is accepted exactly if it has items that are well formed and differ. -/
theorem Checklist.violations_eq_nil (p : Path) (c : Checklist) :
    c.violations p = [] ↔ c.WellFormed := by
  rw [Checklist.violations, List.append_eq_nil_iff, reportIf_eq_nil, List.isEmpty_eq_false_iff,
    siblings_eq_nil (fun _ _ (i : ChecklistItem) => labelled_eq_nil.trans
      (and_congr_right fun _ => i.wellFormed_iff.symm))]
  exact ⟨fun ⟨nonempty, items, distinct⟩ => ⟨nonempty, items, distinct⟩,
    fun ⟨nonempty, items, distinct⟩ => ⟨nonempty, items, distinct⟩⟩

theorem Header.violations_eq_nil (p : Path) (h : Header) :
    h.violations p = [] ↔ h.WellFormed := by
  simp only [Header.violations, List.append_eq_nil_iff, atMostChars_eq_nil, Header.textLimit,
    Header.addressLimit]
  constructor
  · rintro ⟨⟨⟨⟨⟨title, subtitle⟩, documentNumber⟩, revision⟩, effectiveDate⟩, logoUrl⟩
    exact ⟨title, subtitle, documentNumber, revision, effectiveDate, logoUrl⟩
  · rintro ⟨title, subtitle, documentNumber, revision, effectiveDate, logoUrl⟩
    exact ⟨⟨⟨⟨⟨title, subtitle⟩, documentNumber⟩, revision⟩, effectiveDate⟩, logoUrl⟩

theorem Signature.violations_eq_nil (p : Path) (s : Signature) :
    s.violations p = [] ↔ s.WellFormed := by
  simp only [Signature.violations, List.append_eq_nil_iff, between_eq_nil, oneOf_eq_nil]
  exact ⟨fun ⟨⟨width, height⟩, type⟩ => ⟨width, height, type⟩,
    fun ⟨width, height, type⟩ => ⟨⟨width, height⟩, type⟩⟩

theorem Notes.violations_eq_nil (p : Path) (n : Notes) : n.violations p = [] ↔ n.WellFormed := by
  rw [Notes.violations, List.append_eq_nil_iff, notBlank_eq_nil, oneOf_eq_nil]
  exact ⟨fun ⟨content, style⟩ => ⟨content, style⟩, fun ⟨content, style⟩ => ⟨content, style⟩⟩

/-! ### Choices -/

/-- A blank value is not compared with others, and is a defect by itself. -/
theorem Choice.value_eq_nil {value : String} {again : Bool} {p : Path} :
    (if isBlank value then [⟨p, .empty "option value"⟩]
      else reportIf again p (.repeated "option value" value)) = [] ↔
      again = false ∧ Legible value := by
  rw [← isBlank_eq_false_iff]
  cases isBlank value <;> simp [reportIf_eq_nil]

/-- Choices are accepted exactly if there are some, they are well formed and they differ. -/
theorem Choice.listViolations_eq_nil (p : Path) (options : List Choice) :
    Choice.listViolations p options = [] ↔ Choice.WellFormedList options := by
  have element : ∀ i again (c : Choice),
      (if isBlank c.value then [⟨(p.index i).field "value", .empty "option value"⟩]
        else reportIf again ((p.index i).field "value") (.repeated "option value" c.value)) ++
        notBlank "option label" c.label ((p.index i).field "label") = [] ↔
      again = false ∧ c.WellFormed := by
    intro i again c
    rw [List.append_eq_nil_iff, Choice.value_eq_nil, notBlank_eq_nil, and_assoc]
    exact and_congr_right fun _ => ⟨fun ⟨value, label⟩ => ⟨value, label⟩,
      fun ⟨value, label⟩ => ⟨value, label⟩⟩
  rw [Choice.listViolations, List.append_eq_nil_iff, reportIf_eq_nil, List.isEmpty_eq_false_iff,
    siblings_eq_nil element]
  exact ⟨fun ⟨nonempty, choices, distinct⟩ => ⟨nonempty, choices, distinct⟩,
    fun ⟨nonempty, choices, distinct⟩ => ⟨nonempty, choices, distinct⟩⟩

theorem RadioGroup.violations_eq_nil (p : Path) (r : RadioGroup) :
    r.violations p = [] ↔ r.WellFormed := by
  simp only [RadioGroup.violations, List.append_eq_nil_iff, Choice.listViolations_eq_nil,
    oneOf_eq_nil]
  constructor
  · rintro ⟨⟨options, orientation⟩, defaultValue⟩
    refine ⟨options, orientation, fun value hvalue => ?_⟩
    rw [Option.mem_def] at hvalue
    simpa [hvalue, reportIf_eq_nil] using defaultValue
  · rintro ⟨options, orientation, defaultValue⟩
    refine ⟨⟨options, orientation⟩, ?_⟩
    split
    · rfl
    · next value hvalue => simpa [reportIf_eq_nil] using defaultValue value hvalue

/-- A checkbox group is accepted exactly if its choices, its counts and its layout are in order. -/
theorem CheckboxGroup.violations_eq_nil (p : Path) (c : CheckboxGroup) :
    c.violations p = [] ↔ c.WellFormed := by
  simp only [CheckboxGroup.violations, List.append_eq_nil_iff, Choice.listViolations_eq_nil,
    oneOf_eq_nil, notNegative_eq_nil, positive_eq_nil, between_eq_nil]
  constructor
  · rintro ⟨⟨⟨⟨⟨options, orientation⟩, minSelections⟩, maxSelections⟩, selections⟩, gridColumns⟩
    exact ⟨options, orientation, minSelections, maxSelections,
      (gated_ordered_eq_nil (countAndPositive_pass minSelections maxSelections)).mp selections,
      gridColumns⟩
  · rintro ⟨options, orientation, minSelections, maxSelections, selections, gridColumns⟩
    exact ⟨⟨⟨⟨⟨options, orientation⟩, minSelections⟩, maxSelections⟩,
      (gated_ordered_eq_nil (countAndPositive_pass minSelections maxSelections)).mpr selections⟩,
      gridColumns⟩

/-! ### Times of day -/

/-- Times that name minutes pass if the earlier one does not come after the later one. -/
theorem TimePicker.orderViolations_eq_nil (p : Path) {t : TimePicker}
    (hmin : ∀ s ∈ t.minTime, ∃ n, NamesMinute s n) (hmax : ∀ s ∈ t.maxTime, ∃ n, NamesMinute s n) :
    t.orderViolations p = [] ↔ ∀ s ∈ t.minTime, ∀ s' ∈ t.maxTime,
      ∀ n n', NamesMinute s n → NamesMinute s' n' → n ≤ n' := by
  unfold TimePicker.orderViolations
  split
  · next s s' hs hs' =>
    obtain ⟨n, hn⟩ := hmin s hs
    obtain ⟨n', hn'⟩ := hmax s' hs'
    rw [reportIf_eq_nil, decide_eq_false_iff_not, hs, hs']
    simp only [Option.mem_some_iff, forall_eq']
    -- a text names one minute at most, but it is enough that any two it names compare the same
    constructor
    · exact fun h m m' hm hm' => Nat.le_of_not_lt ((lt_iff_of_namesMinute hm' hm).not.mp h)
    · exact fun h => (lt_iff_of_namesMinute hn' hn).not.mpr (Nat.not_lt.mpr (h n n' hn hn'))
  · next h =>
    simp only [true_iff]
    exact fun s hs s' hs' => absurd hs' (h s s' hs)

/-- A time is absent or names a minute of the day. -/
theorem TimePicker.absentOr_isClock {value : Option String} :
    absentOr isClock value = true ↔ ∀ s ∈ value, ∃ n, NamesMinute s n := by
  rw [absentOr_iff]
  exact forall₂_congr fun s _ => isClock_iff s

/-- A time picker is accepted exactly if its format, its step and its times are in order. -/
theorem TimePicker.violations_eq_nil (p : Path) (t : TimePicker) :
    t.violations p = [] ↔ t.WellFormed := by
  simp only [TimePicker.violations, List.append_eq_nil_iff, oneOf_eq_nil, between_eq_nil,
    timeOfDay_eq_nil, isClock_iff, isClockWithSeconds_iff]
  have gate (minTime : ∀ s ∈ t.minTime, ∃ n, NamesMinute s n)
      (maxTime : ∀ s ∈ t.maxTime, ∃ n, NamesMinute s n) :
      (absentOr isClock t.minTime && absentOr isClock t.maxTime) = true :=
    Bool.and_eq_true_iff.mpr
      ⟨absentOr_isClock.mpr minTime, absentOr_isClock.mpr maxTime⟩
  constructor
  · rintro ⟨⟨⟨⟨⟨format, stepMinutes⟩, minTime⟩, maxTime⟩, defaultTime⟩, order⟩
    rw [if_pos (gate minTime maxTime), orderViolations_eq_nil p minTime maxTime] at order
    exact ⟨format, stepMinutes, minTime, maxTime, defaultTime, order⟩
  · rintro ⟨format, stepMinutes, minTime, maxTime, defaultTime, order⟩
    rw [if_pos (gate minTime maxTime), orderViolations_eq_nil p minTime maxTime]
    exact ⟨⟨⟨⟨⟨format, stepMinutes⟩, minTime⟩, maxTime⟩, defaultTime⟩, order⟩

/-! ### Nested checklists -/

/-- Where there are items there is a level. -/
theorem NestedItem.levels_pos {items : List NestedItem} (h : items ≠ []) : 0 < levels items := by
  match items, h with
  | .mk _ _ _ _ _ :: _, _ => rw [levels, height]; omega

mutual

/-- A walk that is not cut short by the ceiling meets the keys of the item and of all below it. -/
theorem NestedItem.walk_keys (ceiling depth : Nat) (p : Path) (keys : List String) :
    ∀ item : NestedItem, item.height + depth ≤ ceiling + 1 →
      (item.walk ceiling depth p keys).keys = (item.selfAndBelow.map key).reverse ++ keys
  | .mk key label itemType required children => fun h => by
    rw [height] at h
    rw [walk, selfAndBelow, List.map_cons, List.reverse_cons, List.append_assoc]
    cases children with
    | nil => rfl
    | cons child others =>
        -- there is a level below, so the ceiling has not been reached
        have deeper := levels_pos (List.cons_ne_nil child others)
        rw [List.isEmpty_cons, if_neg Bool.false_ne_true, if_neg (by omega)]
        exact walkList_keys ceiling (depth + 1) _ 0 _ (child :: others) (by omega)

/-- Items above the ceiling leave all their keys behind, the last one first. -/
theorem NestedItem.walkList_keys (ceiling depth : Nat) (p : Path) (i : Nat) (keys : List String) :
    ∀ items : List NestedItem, levels items + depth ≤ ceiling + 1 →
      (walkList ceiling depth p i keys items).keys = ((everyItem items).map key).reverse ++ keys
  | [] => fun _ => rfl
  | item :: rest => fun h => by
    rw [levels] at h
    rw [walkList, everyItem, List.map_append, List.reverse_append, List.append_assoc,
      ← walk_keys ceiling depth (p.index i) keys item (by omega)]
    exact walkList_keys ceiling depth p (i + 1) _ rest (by omega)

end

/-- An item by itself is accepted exactly if its key is new and it is well formed. -/
theorem NestedItem.ownViolations_eq_nil (p : Path) (again : Bool) (item : NestedItem) :
    item.ownViolations p again = [] ↔ again = false ∧ item.WellFormed := by
  rw [ownViolations, List.append_eq_nil_iff, labelled_eq_nil, oneOf_eq_nil, and_assoc, and_assoc]
  exact and_congr_right fun _ => ⟨fun ⟨key, label, type⟩ => ⟨key, label, type⟩,
    fun ⟨key, label, type⟩ => ⟨key, label, type⟩⟩

mutual

/-- An item above the ceiling. -/
theorem NestedItem.walk_eq_nil {ceiling depth : Nat} (p : Path) (keys : List String)
    (hd : depth ≤ ceiling) : ∀ item : NestedItem,
      (item.walk ceiling depth p keys).violations = [] ↔ item.height + depth ≤ ceiling + 1 ∧
        (∀ i ∈ item.selfAndBelow, i.WellFormed) ∧ NewAfter keys (item.selfAndBelow.map key)
  | .mk key label itemType required children => by
    rw [walk, selfAndBelow, List.forall_mem_cons, List.map_cons, newAfter_cons, height,
      ← List.contains_iff_mem, Bool.not_eq_true]
    cases children with
    | nil =>
        simp only [List.isEmpty_nil, if_true, ownViolations_eq_nil, levels, everyItem]
        constructor
        · exact fun ⟨again, own⟩ => ⟨by omega, ⟨own, nofun⟩, again, List.nodup_nil, nofun⟩
        · exact fun ⟨_, ⟨own, _⟩, again, _⟩ => ⟨again, own⟩
    | cons child others =>
        have deeper := levels_pos (List.cons_ne_nil child others)
        rw [List.isEmpty_cons, if_neg Bool.false_ne_true]
        split
        · next h =>
          -- at the ceiling the items below are reported, and they are too deep
          simp only [List.append_eq_nil_iff, List.cons_ne_nil, and_false, false_iff]
          exact fun ⟨height, _⟩ => by omega
        · next h =>
          rw [List.append_eq_nil_iff, ownViolations_eq_nil,
            walkList_eq_nil _ 0 _ (Nat.le_of_not_lt h) (child :: others)]
          constructor
          · exact fun ⟨⟨again, own⟩, height, items, keys⟩ =>
              ⟨by omega, ⟨own, items⟩, again, keys⟩
          · exact fun ⟨height, ⟨own, items⟩, again, keys⟩ =>
              ⟨⟨again, own⟩, by omega, items, keys⟩

/-- A list of items above the ceiling.  Once the first item is within the ceiling, the keys before
the others are those of the first item and all below it. -/
theorem NestedItem.walkList_eq_nil {ceiling depth : Nat} (p : Path) (i : Nat)
    (keys : List String) (hd : depth ≤ ceiling) : ∀ items : List NestedItem,
      (walkList ceiling depth p i keys items).violations = [] ↔
        levels items + depth ≤ ceiling + 1 ∧
        (∀ i ∈ everyItem items, i.WellFormed) ∧ NewAfter keys ((everyItem items).map key)
  | [] => by
    simp only [walkList, levels, everyItem, true_iff]
    exact ⟨by omega, nofun, List.nodup_nil, nofun⟩
  | item :: rest => by
    rw [walkList, List.append_eq_nil_iff, walk_eq_nil (p.index i) keys hd item,
      walkList_eq_nil p (i + 1) _ hd rest, everyItem, List.forall_mem_append, List.map_append,
      newAfter_append, levels]
    constructor
    · rintro ⟨⟨height, items, first⟩, levels, others, second⟩
      -- the first item is within the ceiling, so its walk has met all the keys below it
      rw [walk_keys ceiling depth _ _ item height] at second
      exact ⟨by omega, ⟨items, others⟩, first, second⟩
    · rintro ⟨levels, ⟨items, others⟩, first, second⟩
      rw [← walk_keys ceiling depth (p.index i) keys item (by omega)] at second
      exact ⟨⟨by omega, items, first⟩, by omega, others, second⟩

end

/-- Items are accepted exactly if they nest within the ceiling, are well formed and have different
keys. -/
theorem NestedChecklist.itemViolations_eq_nil (ceiling : Nat) (p : Path) {items : List NestedItem}
    (nonempty : items ≠ []) : NestedChecklist.itemViolations ceiling p items = [] ↔
      NestedItem.levels items ≤ ceiling ∧ (∀ i ∈ NestedItem.everyItem items, i.WellFormed) ∧
        ((NestedItem.everyItem items).map NestedItem.key).Nodup := by
  have deeper := NestedItem.levels_pos nonempty
  rw [NestedChecklist.itemViolations, if_neg (by simpa using nonempty)]
  split
  · next h =>
    simp only [List.cons_ne_nil, false_iff]
    exact fun ⟨levels, _⟩ => by omega
  · next h =>
    rw [NestedItem.walkList_eq_nil p 0 [] (Nat.le_of_not_lt h) items]
    constructor
    · exact fun ⟨levels, items, distinct, _⟩ => ⟨by omega, items, distinct⟩
    · exact fun ⟨levels, items, distinct⟩ => ⟨by omega, items, distinct, nofun⟩

/-- A nested checklist is accepted exactly if it is well formed under the ceiling. -/
theorem NestedChecklist.violations_eq_nil (ceiling : Nat) (p : Path) (c : NestedChecklist) :
    c.violations ceiling p = [] ↔ c.WellFormed ceiling := by
  simp only [NestedChecklist.violations, List.append_eq_nil_iff, reportIf_eq_nil,
    List.isEmpty_eq_false_iff, oneOf_eq_nil, between_eq_nil]
  constructor
  · rintro ⟨⟨⟨nonempty, numberingStyle⟩, indentSize⟩, walk⟩
    obtain ⟨depth, items, distinct⟩ := (itemViolations_eq_nil ceiling _ nonempty).mp walk
    exact ⟨nonempty, numberingStyle, indentSize, depth, items, distinct⟩
  · rintro ⟨nonempty, numberingStyle, indentSize, depth, items, distinct⟩
    exact ⟨⟨⟨nonempty, numberingStyle⟩, indentSize⟩,
      (itemViolations_eq_nil ceiling _ nonempty).mpr ⟨depth, items, distinct⟩⟩

/-! ### Widgets -/

/-- A payload is accepted exactly if it is well formed, whatever its kind. -/
theorem Payload.violations_eq_nil (o : Options) (p : Path) (data : Payload) :
    data.violations o p = [] ↔ data.WellFormed o := by
  cases data with
  | field data => exact data.violations_eq_nil p
  | group data => exact data.violations_eq_nil p
  | table data => exact data.violations_eq_nil p
  | grid data => exact data.violations_eq_nil p
  | checklist data => exact data.violations_eq_nil p
  | formHeader data => exact data.violations_eq_nil p
  | signature data => exact data.violations_eq_nil p
  | notes data => exact data.violations_eq_nil p
  | nestedChecklist data => exact data.violations_eq_nil o.ceiling p
  | radioGroup data => exact data.violations_eq_nil p
  | checkboxGroup data => exact data.violations_eq_nil p
  | timePicker data => exact data.violations_eq_nil p

/-- The body of a widget is accepted exactly if it is a payload that is well formed. -/
theorem Body.violations_eq_nil (o : Options) (p : Path) (b : Body) :
    b.violations o p = [] ↔ ∃ data, b = .payload data ∧ data.WellFormed o := by
  cases b with
  | payload data =>
      rw [Body.violations, Payload.violations_eq_nil]
      exact ⟨fun h => ⟨data, rfl, h⟩, fun ⟨_, e, h⟩ => Body.payload.inj e ▸ h⟩
  | missing kind => simp [Body.violations]
  | unknown raw =>
      rw [Body.violations]
      split <;> simp

/-- A widget is accepted exactly if it is well formed. -/
theorem Widget.violations_eq_nil (o : Options) (p : Path) (w : Widget) :
    w.violations o p = [] ↔ w.WellFormed o := by
  simp only [Widget.violations, List.append_eq_nil_iff, identifier_eq_nil, Body.violations_eq_nil]
  constructor
  · rintro ⟨⟨id, body⟩, foreign⟩
    refine ⟨id, body, fun strict => ?_⟩
    simpa [strict, Widget.foreignViolations] using foreign
  · rintro ⟨id, body, foreign⟩
    refine ⟨⟨id, body⟩, ?_⟩
    split
    · next strict => simp [Widget.foreignViolations, foreign strict]
    · rfl

/-! ### Sections and pages -/

theorem Section.violations_eq_nil (o : Options) (p : Path) (s : Section) :
    s.violations o p = [] ↔ s.WellFormed o := by
  have below (ws : List Widget) :
      siblings Widget.id (fun i _ w => w.violations o (p.item "widgets" i)) ws = [] ↔
        ∀ w ∈ ws, w.WellFormed o :=
    siblings_eq_nil_of_forall (fun i _ w => w.violations_eq_nil o (p.item "widgets" i)) ws
  simp only [Section.violations, List.append_eq_nil_iff, identifier_eq_nil, notBlank_eq_nil]
  constructor
  · rintro ⟨⟨id, title⟩, widgets⟩
    split at widgets
    · cases widgets
    · next ws hws => exact ⟨id, title, ws, hws, (below ws).mp widgets⟩
  · rintro ⟨id, title, ws, hws, widgets⟩
    rw [hws]
    exact ⟨⟨id, title⟩, (below ws).mpr widgets⟩

/-- A section among others is accepted exactly if its identifier is new as well. -/
theorem Section.siblingViolations_eq_nil (o : Options) (p : Path) (i : Nat) (again : Bool)
    (s : Section) : s.siblingViolations o p i again = [] ↔ again = false ∧ s.WellFormed o := by
  rw [Section.siblingViolations, List.append_eq_nil_iff, Section.violations_eq_nil]
  exact and_congr_left fun h => notRepeated_eq_nil h.id.1

theorem Page.violations_eq_nil (o : Options) (p : Path) (page : Page) :
    page.violations o p = [] ↔ page.WellFormed o := by
  have below (ss : List Section) :
      siblings Section.id (Section.siblingViolations o p) ss = [] ↔
        (∀ s ∈ ss, s.WellFormed o) ∧ (ss.map Section.id).Nodup :=
    siblings_eq_nil (Section.siblingViolations_eq_nil o p) ss
  simp only [Page.violations, List.append_eq_nil_iff, identifier_eq_nil, notBlank_eq_nil]
  constructor
  · rintro ⟨⟨id, title⟩, sections⟩
    split at sections
    · cases sections
    · next ss hss => exact ⟨id, title, ss, hss, (below ss).mp sections⟩
  · rintro ⟨id, title, ss, hss, sections⟩
    rw [hss]
    exact ⟨⟨id, title⟩, (below ss).mpr sections⟩

/-- A page among others is accepted exactly if its identifier is new as well. -/
theorem Page.siblingViolations_eq_nil (o : Options) (i : Nat) (again : Bool) (page : Page) :
    page.siblingViolations o i again = [] ↔ again = false ∧ page.WellFormed o := by
  rw [Page.siblingViolations, List.append_eq_nil_iff, Page.violations_eq_nil]
  exact and_congr_left fun h => notRepeated_eq_nil h.id.1

/-! ### Forms -/

/-- The locales are accepted exactly if each of them is one. -/
theorem Form.localeViolations_eq_nil (locales : List String) :
    Form.localeViolations locales = [] ↔ ∀ l ∈ locales, Locale l := by
  simp only [Form.localeViolations, List.flatMap_eq_nil_iff, reportIf_eq_nil, Bool.not_eq_false',
    isLocale_iff, Prod.forall, List.mk_mem_zipIdx_iff_getElem?]
  constructor
  · intro h l hl
    obtain ⟨i, hi⟩ := List.mem_iff_getElem?.mp hl
    exact h l i hi
  · exact fun h l i hi => h l (List.mem_of_getElem? hi)

/-- Absent locales are accepted. -/
theorem Form.locales_eq_nil (f : Form) : Form.localeViolations (f.locales.getD []) = [] ↔
    ∀ locales ∈ f.locales, ∀ l ∈ locales, Locale l := by
  rw [Form.localeViolations_eq_nil]
  cases f.locales <;> simp

/-- The form by itself is accepted exactly if its own texts are in order and it has a page. -/
theorem Form.ownViolations_eq_nil (f : Form) : f.ownViolations = [] ↔
    Identifier f.id ∧ Legible f.title ∧ Legible f.version ∧
      (∀ locales ∈ f.locales, ∀ l ∈ locales, Locale l) ∧
      (∀ storage ∈ f.storage, ∀ name ∈ storage.tableName, Identifier name) ∧ f.pages ≠ [] := by
  simp only [Form.ownViolations, List.append_eq_nil_iff, identifier_eq_nil, notBlank_eq_nil,
    Form.locales_eq_nil, reportIf_eq_nil, List.isEmpty_eq_false_iff]
  constructor
  · rintro ⟨⟨⟨⟨⟨id, title⟩, version⟩, locales⟩, tableName⟩, nonempty⟩
    refine ⟨id, title, version, locales, fun storage hstorage name hname => ?_, nonempty⟩
    have : f.storage.bind Storage.tableName = some name :=
      Option.bind_eq_some_iff.mpr ⟨storage, hstorage, hname⟩
    rw [this] at tableName
    exact identifier_eq_nil.mp tableName
  · rintro ⟨id, title, version, locales, tableName, nonempty⟩
    refine ⟨⟨⟨⟨⟨id, title⟩, version⟩, locales⟩, ?_⟩, nonempty⟩
    split
    · rfl
    · next name hname =>
      obtain ⟨storage, hstorage, hname⟩ := Option.bind_eq_some_iff.mp hname
      exact identifier_eq_nil.mpr (tableName storage hstorage name hname)

/-- The widgets of well-formed pages have names. -/
theorem Page.WellFormed.id_ne_empty {o : Options} {page : Page} (h : page.WellFormed o) :
    ∀ w ∈ page.widgetList, w.id ≠ "" := by
  intro w hw
  obtain ⟨sections, hs, hsections, -⟩ := h.sections
  rw [Page.widgetList, hs, Option.getD_some, List.mem_flatMap] at hw
  obtain ⟨s, hmem, hw⟩ := hw
  obtain ⟨widgets, hws, hwidgets⟩ := (hsections s hmem).widgets
  rw [Section.widgetList, hws, Option.getD_some] at hw
  exact (hwidgets w hw).id.1

/-- All widgets of well-formed pages have an identifier, so none is left out of the comparison. -/
theorem Form.named_occurrences {o : Options} {f : Form} (h : ∀ page ∈ f.pages, page.WellFormed o) :
    named f.occurrences = f.occurrences := by
  refine List.filter_eq_self.mpr fun occurrence ho => ?_
  have hid : occurrence.id ∈ f.widgets.map Widget.id :=
    Form.map_id_occurrences f ▸ List.mem_map_of_mem ho
  obtain ⟨w, hw, e⟩ := List.mem_map.mp hid
  obtain ⟨page, hpage, hw⟩ := List.mem_flatMap.mp hw
  have := (h page hpage).id_ne_empty w hw
  simpa [← e] using this

/-- A form is accepted exactly if it is well formed. -/
theorem Form.valid_iff_wellFormed (o : Options) (f : Form) :
    (f.report o).valid = true ↔ f.WellFormed o := by
  rw [Form.report, List.isEmpty_iff, Form.violations_eq, List.append_eq_nil_iff,
    List.append_eq_nil_iff, Form.ownViolations_eq_nil,
    siblings_eq_nil (Page.siblingViolations_eq_nil o), repeatedWidgets_eq_nil]
  constructor
  · rintro ⟨⟨⟨id, title, version, locales, tableName, nonempty⟩, pages, pagesDistinct⟩, widgets⟩
    -- the pages are sound, so every widget has a name and counts
    rw [named_occurrences pages, map_id_occurrences] at widgets
    exact ⟨id, title, version, locales, tableName, nonempty, pages, pagesDistinct, widgets⟩
  · rintro ⟨id, title, version, locales, tableName, nonempty, pages, pagesDistinct, widgets⟩
    rw [named_occurrences pages, map_id_occurrences]
    exact ⟨⟨⟨id, title, version, locales, tableName, nonempty⟩, pages, pagesDistinct⟩, widgets⟩

end EntryForm
