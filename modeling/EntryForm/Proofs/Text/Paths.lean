import EntryForm.Proofs.Text.Steps

/-!
# Proofs — Text — paths

What the text of a path says when it begins with a field and no name in it holds a dot or a
bracket of either kind (`Path.Plain`): the paths that lead to a value of a form are of this kind.

* `Path.dot_render`: behind a dot, the text of a path is that of its steps.
* `Path.render_inj`: paths with the same text are the same.
* `Path.render_dot_prefix_iff`: a text begins with that of a path and a dot exactly if it is the
  text of a path that goes on from there with a field.
* `Path.eq_field_of_render_eq`: a text that ends with a name is that of a path that does.
-/

namespace EntryForm

/-- A character that has a meaning in the text of a path. -/
def IsPathMark (c : Char) : Prop := c = '.' ∨ c = '[' ∨ c = ']'

instance (c : Char) : Decidable (IsPathMark c) := inferInstanceAs (Decidable (_ ∨ _ ∨ _))

/-- The name is there, and nothing in it is taken for a mark. -/
def PlainName (name : String) : Prop := name ≠ "" ∧ ∀ c ∈ name.toList, ¬ IsPathMark c

instance (name : String) : Decidable (PlainName name) :=
  @instDecidableAnd _ _ _ (List.decidableBAll (fun c => ¬ IsPathMark c) name.toList)

/-- The step is one whose text can be told from the texts around it. -/
def Step.Plain : Step → Prop
  | .field name => PlainName name
  | .index _ => True

/-- The path begins with a field, and its steps are plain. -/
structure Path.Plain (p : Path) : Prop where
  rooted : ∃ name rest, p.steps = .field name :: rest
  steps : ∀ s ∈ p.steps, s.Plain

/-- A plain name has none of the marks that begin a step. -/
theorem PlainName.clear {name : String} (h : PlainName name) : ClearName name :=
  ⟨h.1, fun hc => h.2 _ hc (.inl rfl), fun hc => h.2 _ hc (.inr (.inl rfl))⟩

theorem Step.Plain.clear {s : Step} (h : s.Plain) : s.Clear := by
  cases s with
  | field name => exact PlainName.clear h
  | index i => exact trivial

namespace Path

variable {p q : Path}

theorem Plain.clear (hp : p.Plain) : ∀ s ∈ p.steps, s.Clear := fun s hs => (hp.steps s hs).clear

/-- Behind a dot, the text of a path is that of its steps. -/
theorem dot_render (hp : p.Plain) : '.' :: p.render.toList = p.steps.flatMap Step.text := by
  obtain ⟨name, rest, hsteps⟩ := hp.rooted
  have hname : PlainName name := hp.steps (.field name) (hsteps ▸ List.mem_cons_self)
  cases p
  subst hsteps
  rw [toList_render_field hname.1]
  rfl

/-- Paths with the same text are the same. -/
theorem render_inj (hp : p.Plain) (hq : q.Plain) : p.render = q.render ↔ p = q :=
  render_eq_iff hp.clear hq.clear

/-- A text begins with that of a path and a dot exactly if it goes on from there with a field. -/
theorem render_dot_prefix_iff (hp : p.Plain) (hq : q.Plain) :
    (p.render ++ ".").toList <+: q.render.toList ↔
      ∃ name rest, q.steps = p.steps ++ .field name :: rest := by
  obtain ⟨name, rest, hsteps⟩ := hp.rooted
  exact append_dot_prefix_iff (hsteps ▸ List.cons_ne_nil _ _) hp.clear hq.clear

/-- A text that ends with a name is that of a path that does. -/
theorem eq_field_of_render_eq {name : String} (hq : q.Plain) (hname : PlainName name)
    (h : q.render = (p.field name).render) : ∃ q' : Path, q = q'.field name := by
  -- behind a dot, the text ends with a dot and the name
  have ending : ∃ before, '.' :: q.render.toList = before ++ '.' :: name.toList := by
    rw [h, render_field, extendText]
    split
    · exact ⟨[], rfl⟩
    · exact ⟨'.' :: p.render.toList, by simp⟩
  obtain ⟨before, htext⟩ := ending
  obtain ⟨steps, last, hsteps⟩ : ∃ steps last, q.steps = steps ++ [last] := by
    obtain ⟨first, rest, hq⟩ := hq.rooted
    exact ⟨_, _, (List.dropLast_append_getLast (hq ▸ List.cons_ne_nil _ _)).symm⟩
  have hlast := hq.steps last (by simp [hsteps])
  rw [dot_render hq, hsteps, List.flatMap_append, List.flatMap_singleton] at htext
  have backwards := congrArg List.reverse htext
  cases last with
  | field other =>
      have unmarked (s : String) (hs : PlainName s) : ∀ c ∈ s.toList.reverse, ¬ IsPathMark c :=
        fun c hc => hs.2 c (List.mem_reverse.mp hc)
      have dot (text : List Char) : StopsAt IsPathMark ('.' :: text) := by
        intro c hc
        exact .inl (Option.some.inj hc).symm
      simp only [Step.text, List.reverse_append, List.reverse_cons, List.append_assoc,
        List.singleton_append] at backwards
      obtain ⟨names, -⟩ := cancel_of_stopsAt (unmarked other hlast) (unmarked name hname)
        (dot _) (dot _) backwards
      obtain rfl : other = name := String.ext (List.reverse_injective names)
      exact ⟨⟨steps⟩, by cases q; exact congrArg Path.mk hsteps⟩
  | index i =>
      -- the last character of the name would be a bracket
      simp only [Step.text, List.reverse_append, List.reverse_cons, List.reverse_nil,
        List.append_assoc, List.nil_append, List.cons_append] at backwards
      obtain ⟨c, rest, hc⟩ : ∃ c rest, name.toList.reverse = c :: rest := by
        refine List.exists_cons_of_ne_nil fun he => hname.1 ?_
        exact String.toList_eq_nil_iff.mp (List.reverse_eq_nil_iff.mp he)
      rw [hc, List.cons_append] at backwards
      have bracket : IsPathMark c := .inr (.inr (List.cons.inj backwards).1.symm)
      exact absurd bracket (hname.2 c (List.mem_reverse.mp (hc ▸ List.mem_cons_self)))

end Path

end EntryForm
