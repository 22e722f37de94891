import Mathlib.Algebra.Ring.Nat
import EntryForm.Proofs.Rules.Parts

/-!
# Proofs — Rules — leniency

Whether a foreign payload is a defect decides about the reports on foreign payloads and about
nothing else.

* `Widget.violations_lenient`, `Form.violations_lenient`: the lenient report is the strict one
  without those reports.
* `Widget.filter_foreign`: a strict report has one of them for each foreign payload of the widget.
* `Form.findings_lenient`: so of a form, with what follows for the two verdicts.
-/

namespace EntryForm
open Rules

/-- The report is not on a foreign payload. -/
def Violation.notForeign (v : Violation) : Bool := v.kind != .unexpectedPayload

/-! ### Widgets -/

variable {p : Path}

/-- A defect of a value by itself is not on a foreign payload. -/
theorem Violation.notForeign_of_ofValue {v : Violation} (h : v.kind.OfValue) :
    v.notForeign = true :=
  bne_iff_ne.mpr h.2.1

/-- The body of a widget is validated alike by all options with the same ceiling. -/
theorem Body.violations_of_ceiling {o o' : Options} (h : o.ceiling = o'.ceiling) (b : Body) :
    b.violations o p = b.violations o' p := by
  cases b with
  | payload data =>
      cases data with
      | nestedChecklist c => simp only [violations, Payload.violations, h]
      | _ => rfl
  | missing kind => rfl
  | unknown raw => rfl

/-- No report on the body of a widget is on a foreign payload. -/
theorem Body.notForeign_of_mem {o : Options} {b : Body} {v : Violation}
    (hv : v ∈ b.violations o p) : v.notForeign = true := by
  cases b with
  | payload data => exact Violation.notForeign_of_ofValue (Payload.inside hv).ofValue
  | missing kind =>
      rw [List.mem_singleton.mp hv]
      rfl
  | unknown raw =>
      rw [violations] at hv
      split at hv
      · rw [List.mem_singleton.mp hv]
        rfl
      · rw [List.mem_singleton.mp hv]
        rfl

/-- Each report on a foreign payload is one. -/
theorem Widget.foreign_of_mem {w : Widget} {v : Violation} (hv : v ∈ w.foreignViolations p) :
    v.notForeign = false := by
  obtain ⟨kind, -, rfl⟩ := List.mem_map.mp hv
  rfl

section Widgets

variable (ceiling : Nat) (w : Widget)

/-- What a widget is reported for in both modes. -/
theorem Widget.notForeign_of_mem {v : Violation}
    (hv : v ∈ w.violations ⟨ceiling, .lenient⟩ p) : v.notForeign = true := by
  rw [violations, List.append_nil] at hv
  obtain hv | hv := List.mem_append.mp hv
  · exact Violation.notForeign_of_ofValue (mem_identifier hv).2
  · exact Body.notForeign_of_mem hv

/-- A strict report ends with the foreign payloads. -/
theorem Widget.violations_strict : w.violations ⟨ceiling, .strict⟩ p =
    w.violations ⟨ceiling, .lenient⟩ p ++ w.foreignViolations p := by
  have body : w.body.violations ⟨ceiling, .strict⟩ p = w.body.violations ⟨ceiling, .lenient⟩ p :=
    w.body.violations_of_ceiling rfl
  rw [violations, violations, List.append_nil, body]

/-- Leniency drops the reports on foreign payloads, and no other. -/
theorem Widget.violations_lenient : w.violations ⟨ceiling, .lenient⟩ p =
    (w.violations ⟨ceiling, .strict⟩ p).filter Violation.notForeign := by
  have own : (w.violations ⟨ceiling, .lenient⟩ p).filter Violation.notForeign =
      w.violations ⟨ceiling, .lenient⟩ p :=
    List.filter_eq_self.mpr fun _ hv => w.notForeign_of_mem ceiling hv
  have foreign : (w.foreignViolations p).filter Violation.notForeign = [] := by
    rw [List.filter_eq_nil_iff]
    intro v hv
    rw [foreign_of_mem hv]
    exact Bool.false_ne_true
  rw [violations_strict, List.filter_append, own, foreign, List.append_nil]

/-- What leniency drops are the reports on the foreign payloads of the widget. -/
theorem Widget.filter_foreign : (w.violations ⟨ceiling, .strict⟩ p).filter (!·.notForeign) =
    w.foreignViolations p := by
  have own : (w.violations ⟨ceiling, .lenient⟩ p).filter (!·.notForeign) = [] := by
    rw [List.filter_eq_nil_iff]
    intro v hv
    rw [w.notForeign_of_mem ceiling hv]
    exact Bool.false_ne_true
  have foreign : (w.foreignViolations p).filter (!·.notForeign) = w.foreignViolations p := by
    rw [List.filter_eq_self]
    intro v hv
    rw [foreign_of_mem hv]
    rfl
  rw [violations_strict, List.filter_append, own, foreign, List.nil_append]

end Widgets

/-! ### Forms -/

section Forms

variable (ceiling : Nat) (f : Form)

/-- Leniency drops the reports on foreign payloads of a form, and no other. -/
theorem Form.violations_lenient : f.violations ⟨ceiling, .lenient⟩ =
    (f.violations ⟨ceiling, .strict⟩).filter Violation.notForeign := by
  rw [violations_eq_parts, violations_eq_parts, List.filter_flatMap]
  refine List.flatMap_congr fun part hpart => ?_
  cases part with
  | widget w p => exact w.violations_lenient ceiling
  | fixed vs =>
      have here := f.ofValues _ hpart
      exact (List.filter_eq_self.mpr fun v hv => Violation.notForeign_of_ofValue (here v hv)).symm

/-- What leniency drops are the reports on foreign payloads, widget by widget. -/
theorem Form.filter_foreign : (f.violations ⟨ceiling, .strict⟩).filter (!·.notForeign) =
    f.numbered.flatMap fun e => e.1.foreignViolations (placeOf e.2) := by
  have none (v : Violation) (h : v.kind.OfValue) : (!v.notForeign) = false := by
    rw [Violation.notForeign_of_ofValue h]
    rfl
  rw [filter_violations none]
  exact List.flatMap_congr fun e _ => e.1.filter_foreign ceiling

/-- There is a strict report for every foreign payload of every widget. -/
theorem Form.countP_foreign : (f.violations ⟨ceiling, .strict⟩).countP (!·.notForeign) =
    (f.widgets.map fun w => w.foreign.length).sum := by
  rw [List.countP_eq_length_filter, filter_foreign, List.length_flatMap, ← map_fst_numbered,
    List.map_map]
  refine congrArg List.sum (List.map_congr_left fun e _ => ?_)
  exact List.length_map _

end Forms

/-- The lenient report on a form is the strict one without the reports on foreign payloads, of which
there is one for each.  So what is accepted strictly is accepted leniently, and the verdicts differ
exactly where there are foreign payloads and no other violations. -/
theorem Form.findings_lenient (f : Form) (ceiling : Nat) :
    let strict := f.report ⟨ceiling, .strict⟩
    let lenient := f.report ⟨ceiling, .lenient⟩
    lenient.findings = strict.findings.filter (fun g => g.kind != .unexpectedPayload) ∧
      (∀ g ∈ lenient.findings, g.kind ≠ .unexpectedPayload) ∧
      strict.findings.countP (fun g => g.kind == .unexpectedPayload) =
        (f.widgets.map fun w => w.foreign.length).sum ∧
      (strict.valid = true → lenient.valid = true) ∧
      (strict.valid ≠ lenient.valid ↔
        strict.findings ≠ [] ∧ ∀ g ∈ strict.findings, g.kind = .unexpectedPayload) := by
  intro strict lenient
  have filtered : lenient.findings =
      strict.findings.filter (fun g => g.kind != .unexpectedPayload) := by
    show (f.violations _).map Violation.finding = ((f.violations _).map Violation.finding).filter _
    rw [violations_lenient, List.filter_map]
    rfl
  have strictly : strict.valid = true ↔ strict.findings = [] := f.valid_iff_findings _
  have leniently : lenient.valid = true ↔ lenient.findings = [] := f.valid_iff_findings _
  have foreign : lenient.findings = [] ↔ ∀ g ∈ strict.findings, g.kind = .unexpectedPayload := by
    rw [filtered, List.filter_eq_nil_iff]
    refine forall₂_congr fun g _ => ?_
    rw [bne_iff_ne, not_ne_iff]
  have kept : strict.findings = [] → lenient.findings = [] := by
    intro h
    rw [filtered, h, List.filter_nil]
  refine ⟨filtered, ?_, ?_, ?_, ?_⟩
  · intro g hg
    rw [filtered] at hg
    exact bne_iff_ne.mp (List.mem_filter.mp hg).2
  · rw [← f.countP_foreign ceiling]
    show ((f.violations _).map Violation.finding).countP _ = _
    rw [List.countP_map]
    refine List.countP_congr fun v _ => ?_
    simp [Violation.notForeign, Violation.finding]
  · rw [strictly, leniently]
    exact kept
  · rw [← foreign, ne_eq, Bool.eq_iff_iff, strictly, leniently]
    by_cases none : strict.findings = []
    · simp [none, kept none]
    · simp [none]

end EntryForm
