import EntryForm.Rules.Form
import EntryForm.Proofs.Rules.Walk
import EntryForm.Proofs.Rules.Repetition
import EntryForm.Proofs.Wire.Places

/-!
# Proofs — Rules — places of violations

Every path that is reported leads to a place in the document as it is written.

Each payload has a lemma `…inside`: its violations are about values inside it.  `leads_of_mem`
lemmas do the same for widgets, sections, pages and the form, whose reports may also name a key
without an entry.
-/

namespace EntryForm
open Rules Wire

variable {p : Path} {v : Violation}

/-! ### Payloads without nesting -/

/-- A report on a field stands in what the field is written as. -/
theorem Field.inside {f : Field} (hv : v ∈ f.violations p) :
    v.Inside (.record .field) f.toJson p := by
  simp only [Field.violations, List.mem_append] at hv
  obtain (((hv | hv) | hv) | hv) | hv := hv
  · exact (mem_oneOf hv).inside rfl (by simp [entries])
  · unfold boundViolations at hv
    split at hv
    · next low high _ hmax =>
      have here : v.IsAt (p.field "max") :=
        isAt_of_mem_reportIf (by simp [Cause.kind, Violation.Kind.OfValue]) hv
      exact here.inside rfl (by simp [entries, hmax])
    · cases hv
  · simp only [lengthViolations, List.mem_append] at hv
    obtain (hv | hv) | hv := hv
    · obtain ⟨here, n, hn⟩ := mem_notNegative hv
      exact here.inside rfl (by simp [entries, hn])
    · obtain ⟨here, n, hn⟩ := mem_notNegative hv
      exact here.inside rfl (by simp [entries, hn])
    · obtain ⟨here, n, hn⟩ := mem_ordered (mem_gated hv).2
      exact here.inside rfl (by simp [entries, hn])
  · unfold patternViolations at hv
    split at hv
    · cases hv
    · next text hpattern =>
      split at hv
      · cases hv
      · next detail _ =>
        obtain rfl := List.mem_singleton.mp hv
        have ofValue : (Cause.malformedPattern detail).kind.OfValue := by
          simp [Cause.kind, Violation.Kind.OfValue]
        exact Violation.IsAt.inside ⟨rfl, ofValue⟩ rfl (by simp [entries, hpattern])
  · -- a field without options has no entry for them
    obtain ⟨path, ofValue⟩ := mem_reportIf_empty hv
    obtain ⟨-, rfl⟩ := mem_reportIf.mp hv
    exact ⟨ofValue, .lacking "options" rfl (.inr (.inr (.inr ⟨rfl, ⟨_, rfl⟩, rfl⟩)))⟩

/-- The keys of a field stand beside the identifier it has in its group. -/
theorem GroupField.leads_of_field {kind : Violation.Kind} {f : GroupField} {q : Path}
    (h : Leads kind (.record .field) f.field.toJson p q) :
    Leads kind (.record .groupField) f.toJson p q := by
  have keys : Record.groupField.keys = ("id", .text, false) :: Record.field.keys := rfl
  have other {key : String} {e : Shape × Bool} (known : Record.field.keys.lookup key = some e) :
      key ≠ "id" := by
    rintro rfl
    rw [show Record.field.keys.lookup "id" = none from rfl] at known
    cases known
  obtain ⟨rest, hne, hq, hpoints⟩ := h
  refine ⟨rest, hne, hq, ?_⟩
  -- the first step decides, and the identifier is passed over in looking its key up
  cases hpoints with
  | here => exact absurd rfl hne
  | value known found below =>
      have hkey := other known
      rw [← lookup_cons_of_ne hkey, ← keys] at known
      rw [← lookup_cons_of_ne hkey] at found
      exact .value known found below
  | absent known lacking may =>
      have hkey := other known
      rw [← lookup_cons_of_ne hkey, ← keys] at known
      rw [← lookup_cons_of_ne hkey] at lacking
      exact .absent known lacking may

/-- A report on a group stands in what the group is written as: a field is flattened into its entry.
-/
theorem Group.inside {g : Group} (hv : v ∈ g.violations p) :
    v.Inside (.record .group) g.toJson p := by
  rw [Group.violations, List.mem_append] at hv
  obtain hv | hv := hv
  · exact (mem_oneOf hv).inside rfl (by simp)
  · obtain ⟨i, f, hf, hv⟩ := mem_siblings.mp hv
    refine .item "fields" rfl rfl hf ?_
    obtain hv | hv := List.mem_append.mp hv
    · exact (mem_localIdentifier hv).inside rfl List.mem_cons_self
    · have inside := Field.inside hv
      exact ⟨inside.ofValue, GroupField.leads_of_field inside.leads⟩

/-- The names, labels and types of list elements. -/
theorem inside_of_labelled {r : Record} {entries : List (String × Json)} {nullable nullable' : Bool}
    {s s' : Shape} {key what what' id label : String} {again : Bool}
    (knownKey : r.keys.lookup key = some (s, nullable)) (hasKey : key ∈ entries.map Prod.fst)
    (knownLabel : r.keys.lookup "label" = some (s', nullable'))
    (hasLabel : "label" ∈ entries.map Prod.fst)
    (hv : v ∈ localIdentifier what id again (p.field key) ++
      notBlank what' label (p.field "label")) : v.Inside (.record r) (.obj entries) p := by
  obtain hv | hv := List.mem_append.mp hv
  · exact (mem_localIdentifier hv).inside knownKey hasKey
  · exact (mem_notBlank hv).inside knownLabel hasLabel

theorem Table.inside {t : Table} (hv : v ∈ t.violations p) :
    v.Inside (.record .table) t.toJson p := by
  simp only [Table.violations, List.mem_append] at hv
  obtain (((hv | hv) | hv) | hv) | hv := hv
  · exact (mem_reportIf_empty hv).inside rfl (by simp)
  · obtain ⟨i, c, hc, hv⟩ := mem_siblings.mp hv
    refine .item "columns" rfl rfl hc ?_
    obtain hv | hv := List.mem_append.mp hv
    · exact inside_of_labelled rfl (by simp) rfl (by simp) hv
    · exact (mem_oneOf hv).inside rfl (by simp)
  · obtain ⟨here, n, hn⟩ := mem_notNegative hv
    exact here.inside rfl (by simp [hn])
  · obtain ⟨here, n, hn⟩ := mem_positive hv
    exact here.inside rfl (by simp [hn])
  · obtain ⟨here, n, hn⟩ := mem_ordered (mem_gated hv).2
    exact here.inside rfl (by simp [hn])

/-- A report on a grid stands in what the grid is written as. -/
theorem Grid.inside {g : Grid} (hv : v ∈ g.violations p) :
    v.Inside (.record .grid) g.toJson p := by
  rw [Grid.violations, List.mem_append] at hv
  obtain hv | hv := hv
  · obtain ⟨i, r, hr, hv⟩ := mem_siblings.mp hv
    exact .item "rows" rfl rfl hr (inside_of_labelled rfl (by simp) rfl (by simp) hv)
  · obtain ⟨i, c, hc, hv⟩ := mem_siblings.mp hv
    refine .item "columns" rfl rfl hc ?_
    obtain hv | hv := List.mem_append.mp hv
    · exact inside_of_labelled rfl (by simp) rfl (by simp) hv
    · exact (mem_oneOf hv).inside rfl (by simp)

theorem Checklist.inside {c : Checklist} (hv : v ∈ c.violations p) :
    v.Inside (.record .checklist) c.toJson p := by
  rw [Checklist.violations, List.mem_append] at hv
  obtain hv | hv := hv
  · exact (mem_reportIf_empty hv).inside rfl (by simp)
  · obtain ⟨i, item, hitem, hv⟩ := mem_siblings.mp hv
    exact .item "items" rfl rfl hitem (inside_of_labelled rfl (by simp) rfl (by simp) hv)

/-- A report on a header is on a text that is written. -/
theorem Header.inside {h : Header} (hv : v ∈ h.violations p) :
    v.Inside (.record .header) h.toJson p := by
  simp only [Header.violations, List.mem_append] at hv
  obtain ((((hv | hv) | hv) | hv) | hv) | hv := hv
  all_goals
    obtain ⟨here, s, hs⟩ := mem_atMostChars hv
    exact here.inside rfl (by simp [hs])

theorem Signature.inside {s : Signature} (hv : v ∈ s.violations p) :
    v.Inside (.record .signature) s.toJson p := by
  simp only [Signature.violations, List.mem_append] at hv
  obtain (hv | hv) | hv := hv
  · exact (mem_between hv).inside rfl (by simp)
  · exact (mem_between hv).inside rfl (by simp)
  · exact (mem_oneOf hv).inside rfl (by simp)

theorem Notes.inside {n : Notes} (hv : v ∈ n.violations p) :
    v.Inside (.record .notes) n.toJson p := by
  rw [Notes.violations, List.mem_append] at hv
  obtain hv | hv := hv
  · exact (mem_notBlank hv).inside rfl (by simp)
  · exact (mem_oneOf hv).inside rfl (by simp)

/-- A report on a value to choose stands in what the choice is written as. -/
theorem Choice.inside_of_value {c : Choice} {again : Bool}
    (hv : v ∈ if Text.isBlank c.value then [⟨p.field "value", .empty "option value"⟩]
      else reportIf again (p.field "value") (.repeated "option value" c.value)) :
    v.Inside (.record .choice) c.toJson p := by
  have here : v.IsAt (p.field "value") := by
    split at hv
    · obtain rfl := List.mem_singleton.mp hv
      exact ⟨rfl, by simp [Violation.kind, Cause.kind, Violation.Kind.OfValue]⟩
    · exact isAt_of_mem_reportIf (by simp [Cause.kind, Violation.Kind.OfValue]) hv
  exact here.inside rfl (by simp)

/-- The choices of a group are in a list under the key `options`. -/
theorem Choice.inside_of_list {r : Record} {entries : List (String × Json)} {options : List Choice}
    (known : r.keys.lookup "options" = some (.list (.record .choice), false))
    (found : entries.lookup "options" = some (.arr (options.map Choice.toJson)))
    (hv : v ∈ Choice.listViolations (p.field "options") options) :
    v.Inside (.record r) (.obj entries) p := by
  rw [Choice.listViolations, List.mem_append] at hv
  obtain hv | hv := hv
  · obtain ⟨path, ofValue⟩ := mem_reportIf_empty hv
    exact ⟨ofValue, path ▸ .field "options" known found⟩
  · obtain ⟨i, c, hc, hv⟩ := mem_siblings.mp hv
    refine .item "options" known found hc ?_
    obtain hv | hv := List.mem_append.mp hv
    · exact Choice.inside_of_value hv
    · exact (mem_notBlank hv).inside rfl (by simp)

theorem RadioGroup.inside {r : RadioGroup} (hv : v ∈ r.violations p) :
    v.Inside (.record .radioGroup) r.toJson p := by
  simp only [RadioGroup.violations, List.mem_append] at hv
  obtain (hv | hv) | hv := hv
  · exact Choice.inside_of_list rfl rfl hv
  · exact (mem_oneOf hv).inside rfl (by simp)
  · split at hv
    · cases hv
    · next value hvalue =>
      have here : v.IsAt (p.field "default_value") :=
        isAt_of_mem_reportIf (by simp [Cause.kind, Violation.Kind.OfValue]) hv
      exact here.inside rfl (by simp [hvalue])

theorem CheckboxGroup.inside {c : CheckboxGroup} (hv : v ∈ c.violations p) :
    v.Inside (.record .checkboxGroup) c.toJson p := by
  simp only [CheckboxGroup.violations, List.mem_append] at hv
  obtain ((((hv | hv) | hv) | hv) | hv) | hv := hv
  · exact Choice.inside_of_list rfl rfl hv
  · exact (mem_oneOf hv).inside rfl (by simp)
  · obtain ⟨here, n, hn⟩ := mem_notNegative hv
    exact here.inside rfl (by simp [hn])
  · obtain ⟨here, n, hn⟩ := mem_positive hv
    exact here.inside rfl (by simp [hn])
  · obtain ⟨here, n, hn⟩ := mem_ordered (mem_gated hv).2
    exact here.inside rfl (by simp [hn])
  · exact (mem_between hv).inside rfl (by simp)

/-- A report on a time picker is on a value that is written. -/
theorem TimePicker.inside {t : TimePicker} (hv : v ∈ t.violations p) :
    v.Inside (.record .timePicker) t.toJson p := by
  simp only [TimePicker.violations, List.mem_append] at hv
  obtain ((((hv | hv) | hv) | hv) | hv) | hv := hv
  · exact (mem_oneOf hv).inside rfl (by simp)
  · exact (mem_between hv).inside rfl (by simp)
  · obtain ⟨here, s, hs⟩ := mem_timeOfDay hv
    exact here.inside rfl (by simp [hs])
  · obtain ⟨here, s, hs⟩ := mem_timeOfDay hv
    exact here.inside rfl (by simp [hs])
  · obtain ⟨here, s, hs⟩ := mem_timeOfDay hv
    exact here.inside rfl (by simp [hs])
  · have hv := (mem_gated hv).2
    unfold orderViolations at hv
    split at hv
    · next earliest latest _ hlatest =>
      have here : v.IsAt (p.field "max_time") :=
        isAt_of_mem_reportIf (by simp [Cause.kind, Violation.Kind.OfValue]) hv
      exact here.inside rfl (by simp [hlatest])
    · cases hv

/-! ### Nested checklists -/

/-- A report on an item by itself stands in what the item is written as. -/
theorem NestedItem.inside_of_own {item : NestedItem} {again : Bool}
    (hv : v ∈ item.ownViolations p again) :
    v.Inside (.record .nestedItem) (.obj item.entries) p := by
  obtain hv | hv := List.mem_append.mp hv
  · exact inside_of_labelled rfl (by simp [entries]) rfl (by simp [entries]) hv
  · exact (mem_oneOf hv).inside rfl (by simp [entries])

mutual

/-- A report of the walk over an item stands in what the item is written as. -/
theorem NestedItem.inside (ceiling depth : Nat) (p : Path) (keys : List String) :
    ∀ item : NestedItem, v ∈ (item.walk ceiling depth p keys).violations →
      v.Inside (.record .nestedItem) item.toJson p
  | .mk key label itemType required children => fun hv => by
    rw [walk] at hv
    rw [toJson_eq]
    split at hv
    · exact inside_of_own hv
    · next hchildren =>
      -- the items below are written, since there are some
      have known : Record.nestedItem.keys.lookup "children" =
        some (.list (.record .nestedItem), false) := rfl
      have found : (entries (mk key label itemType required children)).lookup "children" =
          some (.arr (children.map toJson)) := by
        have : children ≠ [] := by simpa using hchildren
        simp [entries, NestedItem.children, List.lookup_cons, this]
      split at hv
      · obtain hv | hv := List.mem_append.mp hv
        · exact inside_of_own hv
        · obtain rfl := List.mem_singleton.mp hv
          exact ⟨by simp [Violation.kind, Cause.kind, Violation.Kind.OfValue],
            .field "children" known found⟩
      · obtain hv | hv := List.mem_append.mp hv
        · exact inside_of_own hv
        · obtain ⟨m, item, hitem, hv⟩ := listInside ceiling (depth + 1) _ 0 _ children hv
          rw [Nat.zero_add] at hv
          exact .item "children" known found hitem hv

/-- A report of the walk over items stands in what one of them is written as, at its index. -/
theorem NestedItem.listInside (ceiling depth : Nat) (p : Path) (i : Nat) (keys : List String) :
    ∀ items : List NestedItem, v ∈ (walkList ceiling depth p i keys items).violations →
      ∃ m item, items[m]? = some item ∧
        v.Inside (.record .nestedItem) item.toJson (p.index (i + m))
  | [] => fun hv => by
    rw [walkList] at hv
    cases hv
  | item :: rest => fun hv => by
    rw [walkList] at hv
    obtain hv | hv := List.mem_append.mp hv
    · exact ⟨0, item, rfl, inside ceiling depth _ _ item hv⟩
    · obtain ⟨m, other, hother, hv⟩ := listInside ceiling depth p (i + 1) _ rest hv
      refine ⟨m + 1, other, hother, ?_⟩
      rwa [← Nat.add_right_comm] at hv

end

/-- A report on a nested checklist stands in what the checklist is written as. -/
theorem NestedChecklist.inside {ceiling : Nat} {c : NestedChecklist}
    (hv : v ∈ c.violations ceiling p) : v.Inside (.record .nestedChecklist) c.toJson p := by
  have known : Record.nestedChecklist.keys.lookup "items" =
    some (.list (.record .nestedItem), false) := rfl
  simp only [NestedChecklist.violations, List.mem_append] at hv
  obtain ((hv | hv) | hv) | hv := hv
  · exact (mem_reportIf_empty hv).inside rfl (by simp)
  · exact (mem_oneOf hv).inside rfl (by simp)
  · exact (mem_between hv).inside rfl (by simp)
  · unfold itemViolations at hv
    split at hv
    · cases hv
    · split at hv
      · obtain rfl := List.mem_singleton.mp hv
        exact ⟨by simp [Violation.kind, Cause.kind, Violation.Kind.OfValue],
          .field "items" known rfl⟩
      · obtain ⟨m, item, hitem, hv⟩ := NestedItem.listInside ceiling 1 _ 0 [] c.items hv
        rw [Nat.zero_add] at hv
        refine .item "items" known ?_ hitem hv
        rw [← NestedItem.listToJson_eq_map]
        rfl

/-! ### Widgets -/

/-- A report on a payload stands in what the payload is written as. -/
theorem Payload.inside {o : Options} {data : Payload} (hv : v ∈ data.violations o p) :
    v.Inside (.record data.kind.record) data.toJson p := by
  cases data with
  | field data => exact Field.inside hv
  | group data => exact Group.inside hv
  | table data => exact Table.inside hv
  | grid data => exact Grid.inside hv
  | checklist data => exact Checklist.inside hv
  | formHeader data => exact Header.inside hv
  | signature data => exact Signature.inside hv
  | notes data => exact Notes.inside hv
  | nestedChecklist data => exact NestedChecklist.inside hv
  | radioGroup data => exact RadioGroup.inside hv
  | checkboxGroup data => exact CheckboxGroup.inside hv
  | timePicker data => exact TimePicker.inside hv

/-- A report on a body stands in the payload that is written, or at the type. -/
theorem Widget.leads_of_body {o : Options} {w : Widget} (hv : v ∈ w.body.violations o p) :
    Leads v.kind (.record .widget) w.toJson p v.path := by
  unfold Body.violations at hv
  split at hv
  · next data hbody =>
    refine .below_field data.kind.name data.kind.lookup_name ?_ (Payload.inside hv).leads
    rw [toJson, hbody, Body.entries]
    cases data <;> simp [Json.get?, Payload.kind, Kind.name, List.lookup_cons, List.lookup_append]
  · next kind _ =>
    obtain rfl := List.mem_singleton.mp hv
    exact .lacking kind.name kind.lookup_name (.inr (.inl rfl))
  · split at hv
    · obtain rfl := List.mem_singleton.mp hv
      exact .field "type" rfl rfl
    · obtain rfl := List.mem_singleton.mp hv
      exact .field "type" rfl rfl

/-- A report on a widget stands where the widget's shape leads to. -/
theorem Widget.leads_of_mem {o : Options} {w : Widget} (hv : v ∈ w.violations o p) :
    Leads v.kind (.record .widget) w.toJson p v.path := by
  simp only [Widget.violations, List.mem_append] at hv
  obtain (hv | hv) | hv := hv
  · exact ((mem_identifier hv).inside rfl (by simp)).leads
  · exact Widget.leads_of_body hv
  · split at hv
    · obtain ⟨kind, -, rfl⟩ := List.mem_map.mp hv
      exact .lacking kind.name kind.lookup_name (.inr (.inr (.inl rfl)))
    · cases hv

/-! ### Sections and pages -/

/-- The widgets that a section has are written. -/
theorem Section.get?_widgets {s : Section} {widgets : List Widget} (h : s.widgets = some widgets) :
    s.toJson.get? "widgets" = some (.arr (widgets.map Widget.toJson)) := by
  rw [toJson, h]
  rfl

/-- A report on a section stands where the section's shape leads to. -/
theorem Section.leads_of_mem {o : Options} {s : Section} (hv : v ∈ s.violations o p) :
    Leads v.kind (.record .section) s.toJson p v.path := by
  simp only [Section.violations, List.mem_append] at hv
  obtain (hv | hv) | hv := hv
  · exact ((mem_identifier hv).inside rfl (by simp)).leads
  · exact ((mem_notBlank hv).inside rfl (by simp)).leads
  · split at hv
    · obtain rfl := List.mem_singleton.mp hv
      exact .lacking "widgets" rfl (.inl rfl)
    · next widgets hwidgets =>
      obtain ⟨i, w, hw, hv⟩ := mem_siblings.mp hv
      exact .below_item "widgets" rfl (get?_widgets hwidgets) hw (Widget.leads_of_mem hv)

/-- The identifier of a widget stands where the section's shape leads to. -/
theorem Section.leads_of_occurrence {kind : Violation.Kind} {s : Section} {o : Occurrence}
    (ho : o ∈ s.occurrences p) : Leads kind (.record .section) s.toJson p o.path := by
  obtain ⟨⟨w, i⟩, hw, rfl⟩ := List.mem_map.mp ho
  rw [List.mk_mem_zipIdx_iff_getElem?, widgetList] at hw
  cases h : s.widgets with
  | none => rw [h] at hw; cases hw
  | some widgets =>
      rw [h] at hw
      exact .below_item "widgets" rfl (get?_widgets h) hw (.field "id" rfl rfl)

theorem Page.get?_sections {page : Page} {sections : List Section}
    (h : page.sections = some sections) :
    page.toJson.get? "sections" = some (.arr (sections.map Section.toJson)) := by
  rw [toJson, h]
  rfl

/-- A report on a page stands where the page's shape leads to. -/
theorem Page.leads_of_mem {o : Options} {page : Page} (hv : v ∈ page.violations o p) :
    Leads v.kind (.record .page) page.toJson p v.path := by
  simp only [Page.violations, List.mem_append] at hv
  obtain (hv | hv) | hv := hv
  · exact ((mem_identifier hv).inside rfl (by simp)).leads
  · exact ((mem_notBlank hv).inside rfl (by simp)).leads
  · split at hv
    · obtain rfl := List.mem_singleton.mp hv
      exact .lacking "sections" rfl (.inl rfl)
    · next sections hsections =>
      obtain ⟨i, s, hs, hv⟩ := mem_siblings.mp hv
      refine .below_item "sections" rfl (get?_sections hsections) hs ?_
      obtain hv | hv := List.mem_append.mp hv
      · exact ((mem_notRepeated hv).inside rfl (by simp)).leads
      · exact Section.leads_of_mem hv

theorem Page.leads_of_occurrence {kind : Violation.Kind} {page : Page} {o : Occurrence}
    (ho : o ∈ page.occurrences p) : Leads kind (.record .page) page.toJson p o.path := by
  obtain ⟨⟨s, i⟩, hs, ho⟩ := List.mem_flatMap.mp ho
  rw [List.mk_mem_zipIdx_iff_getElem?] at hs
  cases h : page.sections with
  | none => rw [h] at hs; cases hs
  | some sections =>
      rw [h] at hs
      exact .below_item "sections" rfl (get?_sections h) hs (Section.leads_of_occurrence ho)

/-! ### Forms -/

theorem Form.get?_locales {f : Form} {locales : List String} (h : f.locales = some locales) :
    f.toJson.get? "locales" = some (.arr (locales.map .str)) := by
  simp [toJson, Json.get?, h, ofTexts, List.lookup_cons, List.lookup_append]

theorem Form.get?_storage {f : Form} {storage : Storage} (h : f.storage = some storage) :
    f.toJson.get? "storage" = some storage.toJson := by
  simp [toJson, Json.get?, h, List.lookup_cons, List.lookup_append]

/-- The pages of a form are always written. -/
theorem Form.get?_pages (f : Form) :
    f.toJson.get? "pages" = some (.arr (f.pages.map Page.toJson)) := by
  simp [toJson, Json.get?, List.lookup_cons, List.lookup_append]

/-- A report on a locale stands at its index among those written. -/
theorem Form.leads_of_locale {locales : List String} {f : Form} (h : f.locales = some locales)
    (hv : v ∈ Form.localeViolations locales) :
    Leads v.kind (.record .form) f.toJson .root v.path := by
  obtain ⟨⟨locale, i⟩, hlocale, hv⟩ := List.mem_flatMap.mp hv
  obtain ⟨-, rfl⟩ := mem_reportIf.mp hv
  rw [List.mk_mem_zipIdx_iff_getElem?] at hlocale
  refine .below_field "locales" rfl (get?_locales h) (.element (v := .str locale) ?_)
  rw [List.getElem?_map, hlocale]
  rfl

/-- A report on a form by itself stands where the form's shape leads to. -/
theorem Form.leads_of_own {f : Form} (hv : v ∈ f.ownViolations) :
    Leads v.kind (.record .form) f.toJson .root v.path := by
  simp only [Form.ownViolations, List.mem_append] at hv
  obtain ((((hv | hv) | hv) | hv) | hv) | hv := hv
  · exact ((mem_identifier hv).inside rfl (by simp)).leads
  · exact ((mem_notBlank hv).inside rfl (by simp)).leads
  · exact ((mem_notBlank hv).inside rfl (by simp)).leads
  · cases h : f.locales with
    | none => rw [h] at hv; cases hv
    | some locales =>
        rw [h] at hv
        exact leads_of_locale h hv
  · split at hv
    · cases hv
    · next name hname =>
      obtain ⟨storage, hstorage, htable⟩ := Option.bind_eq_some_iff.mp hname
      refine .below_field "storage" rfl (get?_storage hstorage) ?_
      exact ((mem_identifier hv).inside rfl (by simp [htable])).leads
  · exact ((mem_reportIf_empty hv).inside rfl (by simp)).leads

/-- A report on a form stands where the form's shape leads to. -/
theorem Form.leads_of_mem {o : Options} {f : Form} (hv : v ∈ f.violations o) :
    Leads v.kind (.record .form) f.toJson .root v.path := by
  simp only [Form.violations_eq, List.mem_append] at hv
  obtain (hv | hv) | hv := hv
  · exact leads_of_own hv
  · obtain ⟨i, page, hpage, hv⟩ := mem_siblings.mp hv
    refine .below_item "pages" rfl f.get?_pages hpage ?_
    obtain hv | hv := List.mem_append.mp hv
    · exact ((mem_notRepeated hv).inside rfl (by simp)).leads
    · exact Page.leads_of_mem hv
  · -- a repetition is reported at the identifier of one of the widgets
    obtain ⟨-, occurrence, ho, path⟩ := mem_repeatedWidgets hv
    obtain ⟨⟨page, i⟩, hpage, ho⟩ := List.mem_flatMap.mp ho
    rw [List.mk_mem_zipIdx_iff_getElem?] at hpage
    rw [← path]
    exact .below_item "pages" rfl f.get?_pages hpage (Page.leads_of_occurrence ho)

/-- The path of every finding is the text of steps into the document that is written. -/
theorem Form.findings_point (o : Options) (f : Form) :
    ∀ g ∈ (f.report o).findings, ∃ path : Path, g.path = path.render ∧ path.steps ≠ [] ∧
      Points g.kind (.record .form) f.toJson path.steps := by
  intro g hg
  obtain ⟨v, hv, rfl⟩ := List.mem_map.mp hg
  obtain ⟨steps, hne, hsteps, hpoints⟩ := leads_of_mem hv
  rw [Path.root, List.nil_append] at hsteps
  exact ⟨v.path, rfl, hsteps ▸ hne, hsteps ▸ hpoints⟩

/-- A page without its list is reported at a key that has no entry. -/
theorem Form.findings_point_undeclared :
    let page : Page := { id := "p", title := "P" }
    let f : Form := { id := "f", title := "F", version := "1", pages := [page] }
    let g : Finding := ⟨"pages[0].sections", .missingField, "page must declare a sections list"⟩
    g ∈ (f.report {}).findings ∧ ∃ path : Path, g.path = path.render ∧ path.steps ≠ [] ∧
      Points g.kind (.record .form) f.toJson path.steps :=
  ⟨by decide, findings_point {} _ _ (by decide)⟩

end EntryForm
