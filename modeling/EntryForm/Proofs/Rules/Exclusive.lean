import EntryForm.Proofs.Rules.Places
import EntryForm.Proofs.Text.Paths
import EntryForm.Proofs.Wire.Widgets

/-!
# Proofs — Rules — one payload a widget

`Widget.Exclusive o p v w` says what the report on the widget `w` at `p` is, from the object `v`
that it was written as: which payloads are there besides the one that the type names, whether that
one is missing, whether the type is known, and which payload is looked into.

`Widget.exclusive_of_decode`: so it is for every object that can be decoded, where payloads of
other kinds count as defects.
-/

namespace EntryForm
open Rules Wire

/-! ### Texts of paths -/

/-- Two paths part at a field: their texts differ unless the one name begins the other. -/
theorem Path.render_ne {p q : Path} {name other : String} {rest : List Step}
    (hq : q.steps = p.steps ++ .field name :: rest) (h : ¬ name.toList <+: other.toList) :
    q.render ≠ (p.field other).render := by
  obtain ⟨start, hstart⟩ := exists_extendText_field p.render
  have hne : start ++ name ≠ "" := by
    intro he
    obtain rfl := (String.append_eq_empty_iff.mp he).2
    exact h List.nil_prefix
  -- both texts begin with `start`, and behind it the one has `name` and the other ends with `other`
  intro he
  have hlists := congrArg String.toList he
  rw [render, hq, List.foldl_append, List.foldl_cons, ← render, hstart,
    toList_foldl_extendText hne, render_field, hstart, String.toList_append, String.toList_append,
    List.append_assoc] at hlists
  exact h ⟨_, List.append_cancel_left hlists⟩

/-! ### What the object demands -/

/-- The reports on the payloads of an object that its type does not name. -/
def Json.foreignViolations (p : Path) (v : Json) : List Violation :=
  (v.payloadKinds.filter fun kind => kind.name ≠ v.typeText).map fun kind =>
    ⟨p.field kind.name, .foreignPayload kind v.typeText⟩

/-- The report on the widget `w` at `p`, from the object `v`. -/
structure Widget.Exclusive (o : Options) (p : Path) (v : Json) (w : Widget) : Prop where
  /-- A payload that the type names is read from its key and looked into, and no other is. -/
  own : ∀ kind, Kind.ofName? v.typeText = some kind → v.holds kind = true → ∃ content data,
    v.get? kind.name = some content ∧ Payload.decode kind content = .ok data ∧
    w.violations o p = identifier "widget id" w.id (p.field "id") ++
      data.violations o (p.field kind.name) ++ v.foreignViolations p
  /-- Where the type names a kind without a payload, none is looked into. -/
  absent : ∀ kind, Kind.ofName? v.typeText = some kind → v.holds kind = false →
    w.violations o p = identifier "widget id" w.id (p.field "id") ++
      [⟨p.field kind.name, .absentPayload kind⟩] ++ v.foreignViolations p
  /-- Where the type names no kind, no payload is looked into. -/
  unknown : Kind.ofName? v.typeText = none →
    w.violations o p = identifier "widget id" w.id (p.field "id") ++
      [⟨p.field "type",
        if v.typeText = "" then .empty "widget type" else .unknownType v.typeText⟩] ++
      v.foreignViolations p
  /-- Every payload that the type does not name is reported, once and in the order of the kinds. -/
  unexpected : (w.violations o p).filter (·.kind = .unexpectedPayload) = v.foreignViolations p
  /-- The payload that the type names is reported, once, where it is missing. -/
  missing : (w.violations o p).filter (·.kind = .missingPayload) =
    ((Kind.ofName? v.typeText).toList.filter fun kind => !v.holds kind).map fun kind =>
      ⟨p.field kind.name, .absentPayload kind⟩
  /-- There is a report at the type where it names no kind, and only there. -/
  type : (∃ u ∈ w.violations o p, u.path.render = (p.field "type").render) ↔
    Kind.ofName? v.typeText = none
  /-- A widget without violations has one payload, the one that its type names. -/
  accepted : w.violations o p = [] → ∃ kind, v.typeText = kind.name ∧ v.payloadKinds = [kind]

/-! ### The parts of a report -/

/-- A text names the kind whose name it is. -/
theorem Kind.ofName?_eq_some {raw : String} {kind : Kind} :
    ofName? raw = some kind ↔ kind.name = raw := by
  refine ⟨fun h => ?_, fun h => h ▸ ofName?_name kind⟩
  have := List.find?_some h
  exact beq_iff_eq.mp this

section Parts

variable {o : Options} {p : Path}

/-- Reports on values are about no payload as a whole. -/
theorem filter_eq_nil_of_ofValue {vs : List Violation} (h : ∀ u ∈ vs, u.kind.OfValue) :
    vs.filter (·.kind = .unexpectedPayload) = [] ∧ vs.filter (·.kind = .missingPayload) = [] := by
  refine ⟨List.filter_eq_nil_iff.mpr fun u hu => ?_, List.filter_eq_nil_iff.mpr fun u hu => ?_⟩
  · rw [decide_eq_true_eq]
    exact (h u hu).2.1
  · rw [decide_eq_true_eq]
    exact (h u hu).1

/-- A payload by itself gives no report on payloads that are missing or foreign. -/
theorem filter_payload (data : Payload) :
    (data.violations o p).filter (·.kind = .unexpectedPayload) = [] ∧
      (data.violations o p).filter (·.kind = .missingPayload) = [] :=
  filter_eq_nil_of_ofValue fun _ hu => (Payload.inside hu).ofValue

/-- All reports on foreign payloads are of that kind, and none is of a missing one. -/
theorem filter_foreignViolations (v : Json) :
    (v.foreignViolations p).filter (·.kind = .unexpectedPayload) = v.foreignViolations p ∧
      (v.foreignViolations p).filter (·.kind = .missingPayload) = [] := by
  refine ⟨List.filter_eq_self.mpr fun u hu => ?_, List.filter_eq_nil_iff.mpr fun u hu => ?_⟩
  · obtain ⟨kind, -, rfl⟩ := List.mem_map.mp hu
    rfl
  · obtain ⟨kind, -, rfl⟩ := List.mem_map.mp hu
    exact Bool.false_ne_true

/-- Reports on one of the other keys of a widget do not stand at its type. -/
theorem render_ne_type {name : String} {q : Path} {rest : List Step}
    (hname : name = "id" ∨ ∃ kind : Kind, name = kind.name)
    (hq : q.steps = p.steps ++ .field name :: rest) : q.render ≠ (p.field "type").render := by
  refine Path.render_ne hq ?_
  obtain rfl | ⟨kind, rfl⟩ := hname
  · decide
  · cases kind <;> decide

/-- The identifier of a widget is reported beside its type. -/
theorem render_ne_type_of_identifier {u : Violation} {what id : String}
    (hu : u ∈ identifier what id (p.field "id")) : u.path.render ≠ (p.field "type").render :=
  render_ne_type (.inl rfl) (congrArg Path.steps (mem_identifier hu).1)

/-- A payload is reported beside the type of its widget. -/
theorem render_ne_type_of_payload {u : Violation} {data : Payload} {kind : Kind}
    (hu : u ∈ data.violations o (p.field kind.name)) :
    u.path.render ≠ (p.field "type").render := by
  obtain ⟨rest, -, hpath, -⟩ := (Payload.inside hu).leads
  have hq : u.path.steps = p.steps ++ .field kind.name :: rest := by
    rw [hpath, Path.field, List.append_assoc, List.singleton_append]
  exact render_ne_type (.inr ⟨kind, rfl⟩) hq

/-- Foreign payloads are reported beside the type of their widget. -/
theorem render_ne_type_of_foreign {u : Violation} {v : Json} (hu : u ∈ v.foreignViolations p) :
    u.path.render ≠ (p.field "type").render := by
  obtain ⟨kind, -, rfl⟩ := List.mem_map.mp hu
  exact render_ne_type (.inr ⟨kind, rfl⟩) rfl

/-- A payload of the kind that the type names is the only one if none is reported as foreign. -/
theorem payloadKinds_eq_singleton {v : Json} {kind : Kind} (hname : kind.name = v.typeText)
    (hholds : v.holds kind = true) (hforeign : v.foreignViolations p = []) :
    v.payloadKinds = [kind] := by
  have only : ∀ other ∈ Kind.all, v.holds other = (other == kind) := by
    intro other hall
    by_cases h : other = kind
    · rw [h, hholds, beq_self_eq_true]
    · rw [beq_false_of_ne h]
      cases hother : v.holds other with
      | false => rfl
      | true =>
          rw [Json.foreignViolations, List.map_eq_nil_iff, List.filter_eq_nil_iff] at hforeign
          have same := hforeign other (List.mem_filter.mpr ⟨hall, hother⟩)
          rw [decide_eq_true_eq, not_ne_iff, ← hname] at same
          exact absurd (Kind.name_injective same) h
  rw [Json.payloadKinds, List.filter_congr only]
  cases kind <;> rfl

end Parts

/-! ### The three cases -/

section Cases

variable {o : Options} {p : Path} {v : Json} {w : Widget}

/-- A report of three parts, of which the first is about values, has no other findings about
payloads as a whole than those in the other two. -/
theorem filter_parts {what id : String} {q : Path} (middle : List Violation) :
    (identifier what id q ++ middle ++ v.foreignViolations p).filter
        (·.kind = .unexpectedPayload) =
      middle.filter (·.kind = .unexpectedPayload) ++ v.foreignViolations p ∧
    (identifier what id q ++ middle ++ v.foreignViolations p).filter (·.kind = .missingPayload) =
      middle.filter (·.kind = .missingPayload) := by
  obtain ⟨unexpected, missing⟩ :=
    filter_eq_nil_of_ofValue fun u (hu : u ∈ identifier what id q) => (mem_identifier hu).2
  obtain ⟨foreign, others⟩ := filter_foreignViolations (p := p) v
  constructor
  · rw [List.filter_append, List.filter_append, unexpected, foreign, List.nil_append]
  · rw [List.filter_append, List.filter_append, missing, others, List.nil_append, List.append_nil]

/-- Nothing in such a report stands at the type, unless something in the middle does. -/
theorem render_ne_type_of_parts {what id : String} {middle : List Violation}
    (hm : ∀ u ∈ middle, u.path.render ≠ (p.field "type").render) :
    ¬ ∃ u ∈ identifier what id (p.field "id") ++ middle ++ v.foreignViolations p,
      u.path.render = (p.field "type").render := by
  rintro ⟨u, hu, hpath⟩
  rw [List.mem_append, List.mem_append] at hu
  obtain (hu | hu) | hu := hu
  · exact render_ne_type_of_identifier hu hpath
  · exact hm u hu hpath
  · exact render_ne_type_of_foreign hu hpath

/-- The case of a type that is no kind: it alone is reported, with every payload there is. -/
theorem Widget.Exclusive.of_unknown (hname : Kind.ofName? v.typeText = none)
    (hw : w.violations o p = identifier "widget id" w.id (p.field "id") ++
      [⟨p.field "type",
        if v.typeText = "" then .empty "widget type" else .unknownType v.typeText⟩] ++
      v.foreignViolations p) : w.Exclusive o p v where
  own kind hk := by rw [hname] at hk; cases hk
  absent kind hk := by rw [hname] at hk; cases hk
  unknown _ := hw
  unexpected := by
    rw [hw, (filter_parts _).1]
    split <;> rfl
  missing := by
    rw [hw, (filter_parts _).2, hname]
    split <;> rfl
  type := by
    refine ⟨fun _ => hname, fun _ => ?_⟩
    rw [hw]
    exact ⟨_, List.mem_append_left _ (List.mem_append_right _ List.mem_cons_self), rfl⟩
  accepted hnil := by
    rw [hw] at hnil
    simp at hnil

/-- The case of a kind without its payload: that is missing, and every other one foreign. -/
theorem Widget.Exclusive.of_absent {kind : Kind} (hname : Kind.ofName? v.typeText = some kind)
    (hholds : v.holds kind = false)
    (hw : w.violations o p = identifier "widget id" w.id (p.field "id") ++
      [⟨p.field kind.name, .absentPayload kind⟩] ++ v.foreignViolations p) :
    w.Exclusive o p v where
  own other hk hother := by
    obtain rfl := Option.some.inj (hname.symm.trans hk)
    rw [hholds] at hother
    cases hother
  absent other hk _ := by
    obtain rfl := Option.some.inj (hname.symm.trans hk)
    exact hw
  unknown hnone := by rw [hname] at hnone; cases hnone
  unexpected := by
    rw [hw, (filter_parts _).1]
    rfl
  missing := by
    rw [hw, (filter_parts _).2, hname]
    simp [hholds, Violation.kind, Cause.kind]
  type := by
    have own : ∀ u ∈ [Violation.mk (p.field kind.name) (.absentPayload kind)],
        u.path.render ≠ (p.field "type").render := by
      intro u hu
      obtain rfl := List.mem_singleton.mp hu
      exact render_ne_type (.inr ⟨kind, rfl⟩) rfl
    rw [hname, hw]
    exact iff_of_false (render_ne_type_of_parts own) (by simp)
  accepted hnil := by
    rw [hw] at hnil
    simp at hnil

/-- The case of a kind with its payload: that is checked, and every other one foreign. -/
theorem Widget.Exclusive.of_own {kind : Kind} {content : Json} {data : Payload}
    (hname : Kind.ofName? v.typeText = some kind) (hholds : v.holds kind = true)
    (hcontent : v.get? kind.name = some content) (hdata : Payload.decode kind content = .ok data)
    (hw : w.violations o p = identifier "widget id" w.id (p.field "id") ++
      data.violations o (p.field kind.name) ++ v.foreignViolations p) : w.Exclusive o p v where
  own other hk _ := by
    obtain rfl := Option.some.inj (hname.symm.trans hk)
    exact ⟨content, data, hcontent, hdata, hw⟩
  absent other hk hother := by
    obtain rfl := Option.some.inj (hname.symm.trans hk)
    rw [hholds] at hother
    cases hother
  unknown hnone := by rw [hname] at hnone; cases hnone
  unexpected := by
    rw [hw, (filter_parts _).1, (filter_payload data).1, List.nil_append]
  missing := by
    rw [hw, (filter_parts _).2, (filter_payload data).2, hname]
    simp [hholds]
  type := by
    rw [hname, hw]
    exact iff_of_false (render_ne_type_of_parts fun u hu => render_ne_type_of_payload hu) (by simp)
  accepted hnil := by
    rw [hw, List.append_eq_nil_iff] at hnil
    have hk := Kind.ofName?_eq_some.mp hname
    exact ⟨kind, hk.symm, payloadKinds_eq_singleton hk hholds hnil.2⟩

end Cases

/-! ### Decoded widgets -/

/-- The reports on a widget in terms of the object that it was decoded from. -/
theorem Widget.violations_of_strict {o : Options} (ho : o.exclusivity = .strict) (p : Path)
    {v : Json} {w : Widget} (htype : w.body.discriminator = v.typeText)
    (hforeign : w.foreign = v.payloadKinds.filter fun kind => kind.name ≠ v.typeText) :
    w.violations o p = identifier "widget id" w.id (p.field "id") ++ w.body.violations o p ++
      v.foreignViolations p := by
  rw [Widget.violations, ho, Widget.foreignViolations, htype, hforeign, Json.foreignViolations]

/-- The report on a decoded widget follows from its object. -/
theorem Widget.exclusive_of_decode {entries : List (String × Json)} {w : Widget}
    (h : decode (.obj entries) (.record .widget) = .ok w)
    {o : Options} (ho : o.exclusivity = .strict) (p : Path) :
    w.Exclusive o p (.obj entries) := by
  have report (htype : w.body.discriminator = (Json.obj entries).typeText) :=
    violations_of_strict ho p htype (foreign_of_decode h)
  obtain ⟨hname, hbody⟩ | ⟨kind, hname, ⟨hholds, hbody⟩ |
    ⟨hholds, content, data, hcontent, hdata, hbody⟩⟩ := body_of_decode h
  · refine .of_unknown hname ?_
    rw [report (by rw [hbody, Body.discriminator]), hbody, Body.violations]
    simp only [String.isEmpty_iff]
    split <;> rfl
  · refine .of_absent hname hholds ?_
    rw [report (by rw [hbody]; exact Kind.ofName?_eq_some.mp hname), hbody, Body.violations]
  · refine .of_own hname hholds hcontent hdata ?_
    have hkind := Payload.kind_of_decode hdata
    rw [report (by rw [hbody, Body.discriminator, hkind]; exact Kind.ofName?_eq_some.mp hname),
      hbody, Body.violations, hkind]

/-- A widget whose own payload is null, beside a payload of another kind. -/
theorem Widget.exclusive_of_decode_foreign :
    let v := Json.obj [("type", .str "field"), ("notes", .obj []), ("field", .null)]
    let w : Widget := { id := "", body := .missing .field, foreign := [.notes] }
    decode v (.record .widget) = .ok w ∧ w.Exclusive {} .root v :=
  ⟨rfl, exclusive_of_decode rfl rfl .root⟩

end EntryForm
