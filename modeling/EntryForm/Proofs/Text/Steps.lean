import Mathlib.Data.List.Basic
import EntryForm.Path
import EntryForm.Proofs.Text.Grammar

/-!
# Proofs — Text — steps

The text of a path says which steps lead there, provided that every name among them is there and
holds neither a dot nor an opening bracket (`Step.Clear`).  Nothing in the text is escaped: the
two marks that a step begins with are enough, whatever else a name holds, a closing bracket
included.

* `Path.along`: the path of some steps, taken one by one from the root.
* `Step.text`: the text of a step behind others, which begins with its mark.
* `step_cancel`: of two texts that begin with a step, the steps and the rests agree if the texts
  do.
* `Path.lead_render`: with a dot in front, unless a bracket stands there, the text of a path is
  that of its steps.
* `Path.along_unambiguous`: steps with the same text are the same, and the text of some steps and
  a mark begins the text of others exactly if these go on from there.
-/

namespace EntryForm

/-- The name is there, and neither of the marks that a step begins with is in it. -/
def ClearName (name : String) : Prop := name ≠ "" ∧ '.' ∉ name.toList ∧ '[' ∉ name.toList

instance (name : String) : Decidable (ClearName name) := inferInstanceAs (Decidable (_ ∧ _ ∧ _))

/-- The step is an index, or its name is clear. -/
def Step.Clear : Step → Prop
  | .field name => ClearName name
  | .index _ => True

instance : DecidablePred Step.Clear
  | .field name => inferInstanceAs (Decidable (ClearName name))
  | .index _ => inferInstanceAs (Decidable True)

/-- The character that a step begins with behind others. -/
def Step.mark : Step → Char
  | .field _ => '.'
  | .index _ => '['

/-- The text of a step behind others. -/
def Step.text : Step → List Char
  | .field name => '.' :: name.toList
  | .index i => '[' :: ((toString i).toList ++ [']'])

/-- One step further. -/
def Path.take (p : Path) : Step → Path
  | .field name => p.field name
  | .index i => p.index i

/-- The path of some steps, from the root. -/
def Path.along (steps : List Step) : Path := steps.foldl take root

/-! ### Texts that end at a mark -/

/-- Nothing follows, or one of those characters does. -/
def StopsAt (P : Char → Prop) (text : List Char) : Prop := ∀ c ∈ text.head?, P c

/-- Where two texts agree, so do the parts in front of the first character that has a property. -/
theorem cancel_of_stopsAt {P : Char → Prop} {xs ys rest rest' : List Char}
    (hxs : ∀ c ∈ xs, ¬ P c) (hys : ∀ c ∈ ys, ¬ P c) (hrest : StopsAt P rest)
    (hrest' : StopsAt P rest') (h : xs ++ rest = ys ++ rest') : xs = ys ∧ rest = rest' := by
  induction xs generalizing ys with
  | nil =>
      cases ys with
      | nil => exact ⟨rfl, h⟩
      | cons y ys =>
          -- `y` would be the first character behind the other part
          have hy : P y := hrest y (by rw [← List.nil_append rest, h]; rfl)
          exact absurd hy (hys y List.mem_cons_self)
  | cons x xs ih =>
      rw [List.forall_mem_cons] at hxs
      cases ys with
      | nil =>
          have hx : P x := hrest' x (by rw [← List.nil_append rest', ← h]; rfl)
          exact absurd hx hxs.1
      | cons y ys =>
          obtain ⟨rfl, tails⟩ := List.cons.inj h
          obtain ⟨rfl, rests⟩ := ih hxs.2 (List.forall_mem_cons.mp hys).2 tails
          exact ⟨rfl, rests⟩

/-- Nothing follows, or a step does. -/
def AtStep (text : List Char) : Prop := StopsAt (fun c => c = '.' ∨ c = '[') text

/-! ### Steps -/

section Steps

variable {s t : Step} {steps others : List Step} {rest rest' : List Char}

/-- The text of a step begins with its mark. -/
theorem Step.text_eq (s : Step) : ∃ further, s.text = s.mark :: further := by
  cases s with
  | field name => exact ⟨_, rfl⟩
  | index i => exact ⟨_, rfl⟩

/-- A dot begins a field. -/
theorem Step.mark_eq_dot_iff : s.mark = '.' ↔ ∃ name, s = .field name := by
  cases s with
  | field name => exact iff_of_true rfl ⟨name, rfl⟩
  | index i => exact iff_of_false (show '[' ≠ '.' by decide) (by rintro ⟨_, ⟨⟩⟩)

/-- A bracket begins an index. -/
theorem Step.mark_eq_bracket_iff : s.mark = '[' ↔ ∃ i, s = .index i := by
  cases s with
  | field name => exact iff_of_false (show '.' ≠ '[' by decide) (by rintro ⟨_, ⟨⟩⟩)
  | index i => exact iff_of_true rfl ⟨i, rfl⟩

/-- The text of a step is where a step may begin. -/
theorem atStep_text_append (s : Step) (rest : List Char) : AtStep (s.text ++ rest) := by
  intro c hc
  cases s with
  | field name => exact .inl (Option.some.inj hc).symm
  | index i => exact .inr (Option.some.inj hc).symm

/-- The text of some steps is where a step may begin. -/
theorem atStep_flatMap_text (steps : List Step) : AtStep (steps.flatMap Step.text) := by
  cases steps with
  | nil => intro c hc; cases hc
  | cons s rest => exact atStep_text_append s _

/-- Different numbers have different texts. -/
theorem toString_inj {i j : Nat} (h : (toString i).toList = (toString j).toList) : i = j := by
  rw [Nat.toString_eq_repr, Nat.toString_eq_repr, Nat.toList_repr, Nat.toList_repr] at h
  have numbers := congrArg (fun digits => Nat.ofDigitChars 10 digits 0) h
  simpa using numbers

/-- No digit is a bracket. -/
theorem ne_bracket_of_mem_toString {i : Nat} {c : Char} (hc : c ∈ (toString i).toList) :
    c ≠ ']' := by
  have digit := Text.isDigit_of_mem_toString hc
  rintro rfl
  revert digit
  decide

/-- No character of a clear name begins a step. -/
theorem ClearName.unmarked {name : String} (h : ClearName name) {c : Char} (hc : c ∈ name.toList) :
    ¬ (c = '.' ∨ c = '[') := by
  rintro (rfl | rfl)
  · exact h.2.1 hc
  · exact h.2.2 hc

/-- Steps can be read off a text one by one. -/
theorem step_cancel (hs : s.Clear) (ht : t.Clear) (hrest : AtStep rest)
    (hrest' : AtStep rest') (h : s.text ++ rest = t.text ++ rest') : s = t ∧ rest = rest' := by
  match s, t with
  | .field name, .field other =>
      -- a name ends where the next step begins
      obtain ⟨names, rests⟩ := cancel_of_stopsAt (fun c hc => hs.unmarked hc)
        (fun c hc => ht.unmarked hc) hrest hrest' (List.cons.inj h).2
      exact ⟨congrArg Step.field (String.ext names), rests⟩
  | .index i, .index j =>
      -- a number ends where its bracket is closed
      simp only [Step.text, List.cons_append, List.append_assoc, List.nil_append] at h
      have close (rest : List Char) : StopsAt (· = ']') (']' :: rest) := by
        intro c hc
        exact (Option.some.inj hc).symm
      obtain ⟨numbers, rests⟩ := cancel_of_stopsAt (fun c hc => ne_bracket_of_mem_toString hc)
        (fun c hc => ne_bracket_of_mem_toString hc) (close rest) (close rest') (List.cons.inj h).2
      exact ⟨congrArg Step.index (toString_inj numbers), (List.cons.inj rests).2⟩
  | .field _, .index _ => exact absurd (List.cons.inj h).1 (by decide)
  | .index _, .field _ => exact absurd (List.cons.inj h).1 (by decide)

/-- Clear steps are the same if their texts are. -/
theorem flatMap_text_inj (hs : ∀ s ∈ steps, s.Clear) (ho : ∀ s ∈ others, s.Clear)
    (h : steps.flatMap Step.text = others.flatMap Step.text) : steps = others := by
  have nonempty (s : Step) (rest : List Char) : s.text ++ rest ≠ [] := by
    cases s <;> exact List.cons_ne_nil _ _
  induction steps generalizing others with
  | nil =>
      cases others with
      | nil => rfl
      | cons t _ => exact absurd h.symm (nonempty t _)
  | cons s rest ih =>
      cases others with
      | nil => exact absurd h (nonempty s _)
      | cons t rest' =>
          rw [List.forall_mem_cons] at hs ho
          obtain ⟨rfl, rests⟩ := step_cancel hs.1 ho.1 (atStep_flatMap_text rest)
            (atStep_flatMap_text rest') h
          rw [ih hs.2 ho.2 rests]

/-- A text that goes on with the mark of a step behind some steps is that of these steps and of
further ones, the first of which has this mark. -/
theorem exists_of_flatMap_text_append {c : Char} (hc : c = '.' ∨ c = '[')
    (hs : ∀ s ∈ steps, s.Clear) (ho : ∀ s ∈ others, s.Clear)
    (h : steps.flatMap Step.text ++ c :: rest = others.flatMap Step.text) :
    ∃ s further, others = steps ++ s :: further ∧ s.mark = c := by
  induction steps generalizing others with
  | nil =>
      cases others with
      | nil => cases h
      | cons s further =>
          obtain ⟨_, hs⟩ := s.text_eq
          rw [List.flatMap_cons, hs] at h
          exact ⟨s, further, rfl, (List.cons.inj h).1.symm⟩
  | cons s steps ih =>
      rw [List.flatMap_cons, List.append_assoc] at h
      cases others with
      | nil => cases s <;> cases h
      | cons t others =>
          rw [List.forall_mem_cons] at hs ho
          have ends : AtStep (steps.flatMap Step.text ++ c :: rest) := by
            cases steps with
            | nil => intro d hd; exact Option.some.inj hd ▸ hc
            | cons u _ =>
                rw [List.flatMap_cons, List.append_assoc]
                exact atStep_text_append u _
          obtain ⟨rfl, rests⟩ := step_cancel hs.1 ho.1 ends (atStep_flatMap_text others) h
          obtain ⟨u, further, rfl, mark⟩ := ih hs.2 ho.2 rests
          exact ⟨u, further, rfl, mark⟩

end Steps

/-! ### Paths -/

namespace Path

variable {p q : Path}

theorem steps_take (p : Path) (s : Step) : (p.take s).steps = p.steps ++ [s] := by
  cases s <;> rfl

/-- The path along some steps has those steps. -/
theorem along_eq (steps : List Step) : along steps = ⟨steps⟩ := by
  suffices ∀ p : Path, steps.foldl take p = ⟨p.steps ++ steps⟩ from this root
  induction steps with
  | nil => intro p; rw [List.append_nil]; rfl
  | cons s rest ih =>
      intro p
      rw [List.foldl_cons, ih, steps_take, List.append_assoc, List.singleton_append]

/-- Behind a text a step adds its own text. -/
theorem toList_extendText {text : String} (h : text ≠ "") (s : Step) :
    (extendText text s).toList = text.toList ++ s.text := by
  cases s with
  | field name =>
      rw [extendText, if_neg fun he => h (String.isEmpty_iff.mp he)]
      simp [Step.text]
  | index i => simp [extendText, Step.text]

/-- Behind a text some steps add their own texts. -/
theorem toList_foldl_extendText {text : String} (h : text ≠ "") (steps : List Step) :
    (steps.foldl extendText text).toList = text.toList ++ steps.flatMap Step.text := by
  induction steps generalizing text with
  | nil => simp
  | cons s rest ih =>
      have hne : extendText text s ≠ "" := by
        intro he
        have := toList_extendText h s
        rw [he] at this
        exact h (String.toList_eq_nil_iff.mp (List.append_eq_nil_iff.mp this.symm).1)
      rw [List.foldl_cons, ih hne, toList_extendText h, List.flatMap_cons, List.append_assoc]

/-- What stands in front of the name of a field is the same for every field of a record. -/
theorem exists_extendText_field (text : String) :
    ∃ start, ∀ name, extendText text (.field name) = start ++ name := by
  by_cases h : text.isEmpty
  · exact ⟨"", fun name => by rw [extendText, if_pos h, String.empty_append]⟩
  · exact ⟨text ++ ".", fun name => by rw [extendText, if_neg h]⟩

/-- Different keys at the same place have different texts. -/
theorem render_field_inj {name other : String} :
    (p.field name).render = (p.field other).render ↔ name = other := by
  obtain ⟨start, hstart⟩ := exists_extendText_field p.render
  rw [render_field, render_field, hstart, hstart]
  exact String.append_right_inj start

/-- A path that begins with a key has no dot in front. -/
theorem toList_render_field {name : String} (h : name ≠ "") (rest : List Step) :
    (Path.mk (.field name :: rest)).render.toList = name.toList ++ rest.flatMap Step.text :=
  toList_foldl_extendText h rest

/-- A path that begins with an index has the text of its steps. -/
theorem toList_render_index (i : Nat) (rest : List Step) :
    (Path.mk (.index i :: rest)).render.toList = (Step.index i :: rest).flatMap Step.text := by
  have first : (extendText "" (.index i)).toList = (Step.index i).text := by
    simp [extendText, Step.text]
  have hne : extendText "" (.index i) ≠ "" := by simp [extendText]
  rw [List.flatMap_cons, ← first]
  exact toList_foldl_extendText hne rest

/-! ### The dot that the first field lacks -/

/-- What a text lacks in front to be the text of steps: a dot, unless it is empty or begins with
a bracket. -/
def lead : List Char → List Char
  | [] => []
  | c :: _ => if c = '[' then [] else ['.']

theorem lead_cons {c : Char} (h : c ≠ '[') (rest : List Char) : lead (c :: rest) = ['.'] :=
  if_neg h

/-- Nothing is lost with the dot in front. -/
theorem eq_of_lead_append_eq {xs ys : List Char} (h : lead xs ++ xs = lead ys ++ ys) :
    xs = ys := by
  -- only where a dot is put in front does the text begin with one
  have dotted (zs : List Char) :
      lead zs = ['.'] ∨ (lead zs = [] ∧ ∀ rest, zs ≠ '.' :: rest) := by
    rcases zs with _ | ⟨c, rest⟩
    · exact .inr ⟨rfl, fun rest => (List.cons_ne_nil '.' rest).symm⟩
    · by_cases hc : c = '['
      · subst hc
        exact .inr ⟨rfl, fun _ he => absurd (List.cons.inj he).1 (by decide)⟩
      · exact .inl (lead_cons hc rest)
  rcases dotted xs with hx | ⟨hx, xs_dotless⟩ <;> rcases dotted ys with hy | ⟨hy, ys_dotless⟩ <;>
    rw [hx, hy] at h
  · exact (List.cons.inj h).2
  · exact absurd h.symm (ys_dotless xs)
  · exact absurd h (xs_dotless ys)
  · exact h

/-- A text lacks what its beginning does. -/
theorem lead_append {xs : List Char} {c : Char} (h : xs ≠ [] ∨ c = '[') (rest : List Char) :
    lead (xs ++ c :: rest) = lead xs := by
  rcases xs with _ | ⟨d, xs⟩
  · exact if_pos (h.resolve_left fun hne => hne rfl)
  · rfl

/-- A clear name begins with a character that begins no step. -/
theorem exists_of_clearName {name : String} (h : ClearName name) :
    ∃ c cs, name.toList = c :: cs ∧ c ≠ '.' ∧ c ≠ '[' := by
  obtain ⟨c, cs, hname⟩ : ∃ c cs, name.toList = c :: cs :=
    List.exists_cons_of_ne_nil fun he => h.1 (String.toList_eq_nil_iff.mp he)
  have unmarked := h.unmarked (hname ▸ List.mem_cons_self)
  exact ⟨c, cs, hname, fun he => unmarked (.inl he), fun he => unmarked (.inr he)⟩

/-- With what it lacks in front, the text of a path is that of its steps. -/
theorem lead_render (hp : ∀ s ∈ p.steps, s.Clear) :
    lead p.render.toList ++ p.render.toList = p.steps.flatMap Step.text := by
  rcases p with ⟨_ | ⟨⟨name⟩ | i, rest⟩⟩
  · rfl
  · have hname : ClearName name := hp _ List.mem_cons_self
    obtain ⟨c, cs, hcs, -, hc⟩ := exists_of_clearName hname
    rw [toList_render_field hname.1, hcs, List.cons_append, lead_cons hc, List.flatMap_cons,
      Step.text, hcs]
    rfl
  · rw [toList_render_index]
    rfl

/-- The text of a path does not begin with a dot. -/
theorem render_ne_dot_cons (hp : ∀ s ∈ p.steps, s.Clear) (rest : List Char) :
    p.render.toList ≠ '.' :: rest := by
  intro h
  rcases p with ⟨_ | ⟨⟨name⟩ | i, further⟩⟩
  · cases h
  · have hname : ClearName name := hp _ List.mem_cons_self
    obtain ⟨c, cs, hcs, hc, -⟩ := exists_of_clearName hname
    rw [toList_render_field hname.1, hcs] at h
    exact hc (List.cons.inj h).1
  · rw [toList_render_index] at h
    exact absurd (List.cons.inj h).1 (by decide)

/-- Only the root has an empty text. -/
theorem render_eq_empty_iff (hp : ∀ s ∈ p.steps, s.Clear) : p.render = "" ↔ p.steps = [] := by
  rcases p with ⟨_ | ⟨s, rest⟩⟩
  · exact iff_of_true rfl rfl
  · refine iff_of_false (fun he => ?_) (List.cons_ne_nil _ _)
    have text := lead_render hp
    obtain ⟨_, hs⟩ := s.text_eq
    rw [he, List.flatMap_cons, hs] at text
    cases text

/-! ### What texts say about paths -/

/-- Paths of clear steps are the same if their texts are. -/
theorem render_eq_iff (hp : ∀ s ∈ p.steps, s.Clear) (hq : ∀ s ∈ q.steps, s.Clear) :
    p.render = q.render ↔ p = q := by
  refine ⟨fun h => ?_, fun h => h ▸ rfl⟩
  have texts := lead_render hp
  rw [h, lead_render hq] at texts
  have steps := flatMap_text_inj hq hp texts
  cases p
  cases q
  exact congrArg Path.mk steps.symm

/-- The text of a path and a mark begin that of another exactly if this one goes on from there with
a step of that mark.  The root is left out for the dot: behind its text, a field has none. -/
theorem append_mark_prefix_iff {c : Char} (hc : c = '.' ∨ c = '[')
    (hroot : p.render ≠ "" ∨ c = '[') (hp : ∀ s ∈ p.steps, s.Clear)
    (hq : ∀ s ∈ q.steps, s.Clear) :
    p.render.toList ++ [c] <+: q.render.toList ↔
      ∃ s further, q.steps = p.steps ++ s :: further ∧ s.mark = c := by
  have hlead : p.render.toList ≠ [] ∨ c = '[' :=
    hroot.imp_left fun hne he => hne (String.toList_eq_nil_iff.mp he)
  constructor
  · rintro ⟨rest, h⟩
    rw [List.append_assoc, List.singleton_append] at h
    have texts : p.steps.flatMap Step.text ++ c :: rest = q.steps.flatMap Step.text := by
      rw [← lead_render hp, ← lead_render hq, ← h, lead_append hlead, List.append_assoc]
    exact exists_of_flatMap_text_append hc hp hq texts
  · rintro ⟨s, further, h, rfl⟩
    obtain ⟨tail, hs⟩ := s.text_eq
    have text := lead_render hq
    rw [h, List.flatMap_append, List.flatMap_cons, ← lead_render hp, hs, List.append_assoc,
      List.cons_append, ← lead_append hlead (tail ++ further.flatMap Step.text)] at text
    rw [eq_of_lead_append_eq text]
    exact ⟨tail ++ further.flatMap Step.text, by simp⟩

/-- The text of a path with a dot behind begins the texts of the paths that go on with a key. -/
theorem append_dot_prefix_iff (hroot : p.steps ≠ []) (hp : ∀ s ∈ p.steps, s.Clear)
    (hq : ∀ s ∈ q.steps, s.Clear) :
    (p.render ++ ".").toList <+: q.render.toList ↔
      ∃ name further, q.steps = p.steps ++ .field name :: further := by
  have hne : p.render ≠ "" := fun he => hroot ((render_eq_empty_iff hp).mp he)
  rw [String.toList_append]
  refine (append_mark_prefix_iff (.inl rfl) (.inl hne) hp hq).trans ?_
  simp only [Step.mark_eq_dot_iff]
  constructor
  · rintro ⟨_, further, h, name, rfl⟩
    exact ⟨name, further, h⟩
  · rintro ⟨name, further, h⟩
    exact ⟨_, further, h, name, rfl⟩

/-- The text of a path with a bracket behind begins the texts of the paths that go on with an index.
-/
theorem append_bracket_prefix_iff (hp : ∀ s ∈ p.steps, s.Clear) (hq : ∀ s ∈ q.steps, s.Clear) :
    (p.render ++ "[").toList <+: q.render.toList ↔
      ∃ i further, q.steps = p.steps ++ .index i :: further := by
  rw [String.toList_append]
  refine (append_mark_prefix_iff (.inr rfl) (.inr rfl) hp hq).trans ?_
  simp only [Step.mark_eq_bracket_iff]
  constructor
  · rintro ⟨_, further, h, i, rfl⟩
    exact ⟨i, further, h⟩
  · rintro ⟨i, further, h⟩
    exact ⟨_, further, h, i, rfl⟩

end Path

/-! ### Steps from the root -/

/-- Texts of clear steps are unambiguous: the same text comes from the same steps, and the text of
some steps and a mark begins that of others exactly if these are the same steps and at least one
more, a field or an index as the mark says; behind the root, whose text is empty, no dot is
written. -/
theorem Path.along_unambiguous {steps others : List Step} (hs : ∀ s ∈ steps, s.Clear)
    (ho : ∀ s ∈ others, s.Clear) :
    ((along steps).render = (along others).render ↔ steps = others) ∧
    (((along steps).render ++ ".").toList <+: (along others).render.toList ↔
      steps ≠ [] ∧ ∃ name further, others = steps ++ .field name :: further) ∧
    (((along steps).render ++ "[").toList <+: (along others).render.toList ↔
      ∃ i further, others = steps ++ .index i :: further) := by
  rw [along_eq, along_eq]
  refine ⟨(render_eq_iff hs ho).trans ⟨congrArg Path.steps, congrArg Path.mk⟩, ?_,
    append_bracket_prefix_iff hs ho⟩
  by_cases hroot : steps = []
  · subst hroot
    refine iff_of_false ?_ fun h => h.1 rfl
    rintro ⟨rest, h⟩
    exact render_ne_dot_cons (p := ⟨others⟩) ho rest h.symm
  · rw [and_iff_right hroot]
    exact append_dot_prefix_iff (p := ⟨steps⟩) hroot hs ho

/-- A step is not the next digit of a number: behind `a][1]`, a bracket begins what leads to
`a][1][0]`, and not to `a][10]`. -/
theorem Path.along_unambiguous_second :
    ((along [.field "a]", .index 1]).render ++ "[").toList <+:
        (along [.field "a]", .index 1, .index 0]).render.toList ∧
      ¬ ((along [.field "a]", .index 1]).render ++ "[").toList <+:
        (along [.field "a]", .index 10]).render.toList := by
  constructor
  · exact (along_unambiguous (by decide) (by decide)).2.2.mpr ⟨0, [], rfl⟩
  · intro h
    obtain ⟨i, further, steps⟩ := (along_unambiguous (by decide) (by decide)).2.2.mp h
    simp at steps

end EntryForm
