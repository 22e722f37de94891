import EntryForm.Proofs.Wire.Entries

/-!
# Proofs — Wire — types of decoded widgets

A widget is `Typed` if its body is unknown only where its type names no kind.  Every widget of a
decoded form is (`Form.typed_of_decode`), since its body is made from its type.
-/

namespace EntryForm
open Wire

/-- The type of the widget names a kind only where the body is of that kind. -/
def Widget.Typed (w : Widget) : Prop := ∀ raw, w.body = .unknown raw → Kind.ofName? raw = none

/-- A draft becomes a widget whose type names a kind only where its body is of the kind. -/
theorem Wire.WidgetDraft.typed_widget (d : WidgetDraft) : d.widget.Typed := by
  intro raw hraw
  -- a known type makes a body with a payload or without one, but never an unknown one
  rw [WidgetDraft.widget] at hraw
  cases hname : Kind.ofName? d.type with
  | none =>
      simp only [hname] at hraw
      exact Body.unknown.inj hraw ▸ hname
  | some kind =>
      simp only [hname] at hraw
      split at hraw
      · cases hraw
      · cases hraw

/-- Every widget that is decoded is typed. -/
theorem Widget.typed_of_decode {v : Json} {w : Widget} (h : decode v (.record .widget) = .ok w) :
    w.Typed := by
  obtain ⟨d, -, rfl⟩ := decode_record (r := .widget) (P := fun _ => True) rfl trivial
    (fun _ _ _ _ _ _ _ => trivial) h
  exact d.typed_widget

def Section.Typed (s : Section) : Prop := ∀ w ∈ s.widgetList, w.Typed

/-- The slots of a section put typed widgets only. -/
theorem Section.keeps_typed : ∀ slot ∈ Record.section.slots, ∀ v x d, decode v slot.shape = .ok x →
      Section.Typed d → Section.Typed (slot.put x d) := by
    intro slot hslot v x d hx hd
    simp only [Record.slots, List.mem_cons, List.not_mem_nil, or_false] at hslot
    obtain rfl | rfl | rfl := hslot
    · exact hd
    · exact hd
    · intro w hw
      obtain ⟨u, hu⟩ := mem_of_decode_list hx w hw
      exact Widget.typed_of_decode hu

/-- All widgets of a decoded section are typed. -/
theorem Section.typed_of_decode {v : Json} {s : Section}
    (h : decode v (.record .section) = .ok s) : s.Typed := by
  have blank : Section.Typed (Record.blank .section) := fun w hw => absurd hw List.not_mem_nil
  obtain ⟨d, hd, rfl⟩ := decode_record (P := Section.Typed) rfl blank Section.keeps_typed h
  exact hd

def Page.Typed (p : Page) : Prop := ∀ w ∈ p.widgetList, w.Typed

theorem Page.keeps_typed : ∀ slot ∈ Record.page.slots, ∀ v x d, decode v slot.shape = .ok x →
    Page.Typed d → Page.Typed (slot.put x d) := by
  intro slot hslot v x d hx hd
  simp only [Record.slots, List.mem_cons, List.not_mem_nil, or_false] at hslot
  obtain rfl | rfl | rfl := hslot
  · exact hd
  · exact hd
  · intro w hw
    obtain ⟨s, hs, hw⟩ := List.mem_flatMap.mp hw
    obtain ⟨u, hu⟩ := mem_of_decode_list hx s hs
    exact Section.typed_of_decode hu w hw

theorem Page.typed_of_decode {v : Json} {p : Page}
    (h : decode v (.record .page) = .ok p) : p.Typed := by
  have blank : Page.Typed (Record.blank .page) := fun w hw => absurd hw List.not_mem_nil
  obtain ⟨d, hd, rfl⟩ := decode_record (P := Page.Typed) rfl blank Page.keeps_typed h
  exact hd

def Form.Typed (f : Form) : Prop := ∀ w ∈ f.widgets, w.Typed

theorem Form.keeps_typed : ∀ slot ∈ Record.form.slots, ∀ v x d, decode v slot.shape = .ok x →
    Form.Typed d → Form.Typed (slot.put x d) := by
  intro slot hslot v x d hx hd
  simp only [Record.slots, List.mem_cons, List.not_mem_nil, or_false] at hslot
  obtain rfl | rfl | rfl | rfl | rfl | rfl | rfl | rfl | rfl | rfl := hslot
  · exact hd
  · exact hd
  · exact hd
  · exact hd
  · exact hd
  · exact hd
  · exact hd
  · exact hd
  · exact hd
  · intro w hw
    obtain ⟨p, hp, hw⟩ := List.mem_flatMap.mp hw
    obtain ⟨u, hu⟩ := mem_of_decode_list hx p hp
    exact Page.typed_of_decode hu w hw

/-- All widgets of a decoded form are typed. -/
theorem Form.typed_of_decode {v : Json} {f : Form}
    (h : decode v (.record .form) = .ok f) : f.Typed := by
  have blank : Form.Typed (Record.blank .form) := fun w hw => absurd hw List.not_mem_nil
  obtain ⟨d, hd, rfl⟩ := decode_record (P := Form.Typed) rfl blank Form.keeps_typed h
  exact hd

end EntryForm
