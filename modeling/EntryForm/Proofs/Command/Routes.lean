import EntryForm.Command.Run
import EntryForm.Proofs.Json.LineEnd
import EntryForm.Proofs.Wire.Read
import EntryForm.Proofs.Yaml.Ending

/-!
# Proofs — Command — the two routes of a conversion

The text of a converted form is written to a file as it is, or printed without the blanks at its
end and with a line feed.  Printed JSON is the written text with a line feed, which reads alike.
Printed YAML is the written text exactly if the value written last ends in a visible character;
otherwise the print has lost the end of that value (`Form.routes_agree`,
`Form.routes_disagree`).
-/

namespace EntryForm

open Wire

namespace Text

/-- Nothing is taken off the end of a text that ends in a visible character. -/
theorem trimEnd_append {s mark : String} {c : Char} (hmark : mark.toList = [c])
    (visible : isBlankChar c = false) : trimEnd (s ++ mark) = s ++ mark := by
  rw [← String.toList_inj, trimEnd, dropEndBlanks, String.toList_ofList, String.toList_append,
    hmark, List.reverse_append, List.reverse_singleton, List.singleton_append,
    List.dropWhile_cons_of_neg (Bool.eq_false_iff.mp visible), List.reverse_cons,
    List.reverse_reverse]

end Text

/-- An object ends in a brace. -/
theorem Json.trimEnd_pretty (entries : List (String × Json)) :
    Text.trimEnd (Json.obj entries).pretty = (Json.obj entries).pretty := by
  cases entries with
  | nil => decide
  | cons e rest =>
      rw [pretty, prettyAt]
      · exact Text.trimEnd_append rfl rfl
      · intro empty
        cases empty

/-- What is read of a form that is written to a file is read of the form that is printed instead,
if the format is JSON or the text ends in a visible character; and only then is printed YAML the
text that is written. -/
theorem Form.routes_agree {t : Format} {f g : Form} (place : String) (log : List Log.Event)
    (h : Form.read t (f.write t) = .ok g) :
    (Run.Reply.deliver (f.write t) (some place) log).save = some (place, f.write t) ∧
    (t = .json ∨ Yaml.endsSealed f.toJson = true →
      Form.read t (Run.Reply.deliver (f.write t) none log).out = .ok g) ∧
    (t = .yaml → ((Run.Reply.deliver (f.write t) none log).out = f.write t ↔
      Yaml.endsSealed f.toJson = true)) := by
  refine ⟨rfl, ?_, ?_⟩
  · intro agrees
    rw [Run.Reply.deliver]
    cases t with
    | json =>
        dsimp only [write, read] at h ⊢
        rw [toJson, Json.trimEnd_pretty, ← toJson]
        cases hread : Json.readAs (.record .form) f.toJson.pretty with
        | error e => rw [hread] at h; cases h
        | ok v =>
            rw [hread] at h
            rw [Json.readAs_lineEnd hread]
            exact h
    | yaml =>
        have same : Text.trimEnd (f.write .yaml) ++ "\n" = f.write .yaml :=
          (Yaml.trimEnd_write _).mpr (agrees.resolve_left nofun)
        dsimp only
        rw [same]
        exact h
  · rintro rfl
    exact Yaml.trimEnd_write f.toJson

/-- A title that ends in a line feed is written as a block, which ends where the title does. -/
theorem Form.routes_agree_block :
    let text := "pages:\n- title: \"P\\n\"\n"
    ∃ f g, Form.read .yaml text = .ok f ∧ Form.read .yaml (f.write .yaml) = .ok g ∧
      Yaml.endsSealed f.toJson = true ∧
      Form.read .yaml (Run.Reply.deliver (f.write .yaml) none []).out = .ok g ∧
      g.pages.map Page.title = ["P\n"] := by
  intro text
  obtain ⟨f, hf, parts⟩ := exists_of_map_toOption (x := Form.read .yaml text)
    (g := fun f => (Yaml.endsSealed f.toJson,
      (Form.read .yaml (f.write .yaml)).toOption.map fun g => g.pages.map Page.title))
    (b := (true, some ["P\n"])) (by decide +kernel)
  obtain ⟨isSealed, reread⟩ := Prod.mk.inj parts
  obtain ⟨g, hg, titles⟩ := exists_of_map_toOption reread
  obtain ⟨-, agree, -⟩ := routes_agree "form.yaml" [] hg
  exact ⟨f, g, hf, hg, isSealed, agree (.inr isSealed), titles⟩

/-- A title that ends in a no-break space loses it in the print. -/
theorem Form.routes_disagree :
    let text := "pages:\n- title: P\u00a0\n"
    ∃ f g g', Form.read .yaml text = .ok f ∧ Form.read .yaml (f.write .yaml) = .ok g ∧
      Form.read .yaml (Run.Reply.deliver (f.write .yaml) none []).out = .ok g' ∧
      g.pages.map Page.title = ["P\u00a0"] ∧ g'.pages.map Page.title = ["P"] := by
  intro text
  obtain ⟨f, hf, titles⟩ := exists_of_map_toOption (x := Form.read .yaml text)
    (g := fun f => ((Form.read .yaml (f.write .yaml)).toOption.map fun g => g.pages.map Page.title,
      (Form.read .yaml (Run.Reply.deliver (f.write .yaml) none []).out).toOption.map fun g =>
        g.pages.map Page.title))
    (b := (some ["P\u00a0"], some ["P"])) (by decide +kernel)
  obtain ⟨written, printed⟩ := Prod.mk.inj titles
  obtain ⟨g, hg, kept⟩ := exists_of_map_toOption written
  obtain ⟨g', hg', lost⟩ := exists_of_map_toOption printed
  exact ⟨f, g, g', hf, hg, hg', kept, lost⟩

end EntryForm
