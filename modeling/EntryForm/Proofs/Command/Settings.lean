import EntryForm.Command.Settings
import EntryForm.Proofs.Text.Count

/-!
# Proofs — Command — settings

Arguments are asked first, then the environment, then the defaults.

* `Settings.Requested given text n`: the ceiling `n` is that of the argument, or the number that
  the text denotes, or the default.
* `Settings.resolve_order`: a run has no settings exactly if it depends on a text that denotes no
  count; if it has, the ceiling is the one requested, and the mode is the lenient one exactly if an
  argument or the environment asks for it.  The environment matters only where no argument decides.
-/

namespace EntryForm.Settings
open Text

variable {given : Option Nat} {lenient : Bool} {environment other : String → Option String}

/-- The text asks for the lenient mode: between blanks, but for capitals, it is one of four. -/
def Affirmative (text : String) : Prop :=
  ∃ t, Trims text t ∧ lowerAscii t ∈ ["1", "true", "yes", "on"]

/-- The words that switch leniency on are those that affirm. -/
theorem isAffirmative_iff (text : String) : isAffirmative text = true ↔ Affirmative text := by
  rw [isAffirmative, List.contains_iff_mem]
  constructor
  · intro h
    exact ⟨_, trims_iff.mpr rfl, h⟩
  · rintro ⟨t, ht, h⟩
    rwa [trims_iff.mp ht] at h

/-- The ceiling that an argument and the text of a variable request, either of which can be
absent: the argument comes first, and a text must denote a count of 64 bits. -/
inductive Requested : Option Nat → Option String → Nat → Prop where
  | argument (depth : Nat) (text : Option String) : Requested (some depth) text depth
  | variable {text : String} {n : Nat} (h : Denotes text n) (small : n < Nat.pow 2 64) :
      Requested none (some text) n
  | default : Requested none none 32

/-- Another wording of the error leaves success as it is. -/
theorem mapError_eq_ok_iff {α ε ε' : Type} {x : Except ε α} {f : ε → ε'} {a : α} :
    x.mapError f = .ok a ↔ x = .ok a := by
  cases x with
  | error e => exact iff_of_false (by rintro ⟨⟩) (by rintro ⟨⟩)
  | ok b => exact ⟨fun h => congrArg _ (Except.ok.inj h), fun h => congrArg _ (Except.ok.inj h)⟩

/-- A trimmed text is read as the number that it denotes, which has to fit in 64 bits. -/
theorem read_trim_eq_ok_iff {text : String} {n : Nat} :
    Count.read (trim text) = .ok n ↔ Denotes text n ∧ n < Nat.pow 2 64 := by
  rw [Count.read_eq_ok_iff]
  refine and_congr_left fun _ => ?_
  constructor
  · intro h
    exact ⟨_, trims_iff.mpr rfl, h⟩
  · rintro ⟨t, ht, h⟩
    rwa [trims_iff.mp ht] at h

/-- The ceiling is what the flag, or else the variable, asks for. -/
theorem ceiling_eq_ok_iff {n : Nat} :
    ceiling given environment = .ok n ↔ Requested given (environment depthName) n := by
  unfold ceiling
  cases given with
  | some depth =>
      rw [Except.ok.injEq]
      constructor
      · rintro rfl
        exact .argument depth _
      · rintro ⟨⟩
        rfl
  | none =>
      cases environment depthName with
      | none =>
          rw [Except.ok.injEq]
          constructor
          · rintro rfl
            exact .default
          · rintro ⟨⟩
            rfl
      | some text =>
          refine mapError_eq_ok_iff.trans (read_trim_eq_ok_iff.trans ?_)
          constructor
          · rintro ⟨denoted, small⟩
            exact .variable denoted small
          · rintro (_ | ⟨denoted, small⟩)
            exact ⟨denoted, small⟩

/-- Nothing is requested only by a text that denotes no count, and only where no argument is. -/
theorem not_exists_requested_iff {text : Option String} : (¬ ∃ n, Requested given text n) ↔
    given = none ∧ ∃ s ∈ text, ¬ ∃ n < Nat.pow 2 64, Denotes s n := by
  rcases given with _ | depth
  · rcases text with _ | s
    · refine iff_of_false (fun h => h ⟨32, .default⟩) ?_
      rintro ⟨-, _, ⟨⟩, -⟩
    · rw [and_iff_right rfl]
      constructor
      · intro h
        refine ⟨s, rfl, ?_⟩
        rintro ⟨n, small, denoted⟩
        exact h ⟨n, .variable denoted small⟩
      · rintro ⟨_, ⟨⟩, h⟩ ⟨n, _ | ⟨denoted, small⟩⟩
        exact h ⟨n, small, denoted⟩
  · refine iff_of_false (fun h => h ⟨depth, .argument depth text⟩) ?_
    rintro ⟨⟨⟩, -⟩

/-- The run is lenient if the flag or the variable says so. -/
theorem exclusivity_eq_lenient_iff : exclusivity lenient environment = .lenient ↔
    lenient = true ∨ ∃ text ∈ environment lenientName, Affirmative text := by
  have asked : (environment lenientName).any isAffirmative = true ↔
      ∃ text ∈ environment lenientName, Affirmative text := by
    simp only [Option.any_eq_true, Option.mem_def, isAffirmative_iff]
  rw [exclusivity, ← asked, ← Bool.or_eq_true]
  split
  · next h => exact iff_of_true rfl h
  · next h => exact iff_of_false (by rintro ⟨⟩) h

/-- Settings are resolved if the ceiling is, and the exclusivity always is. -/
theorem resolve_eq_ok_iff {o : Options} : resolve given lenient environment = .ok o ↔
    ceiling given environment = .ok o.ceiling ∧ exclusivity lenient environment = o.exclusivity := by
  unfold resolve
  cases ceiling given environment with
  | error fault => exact iff_of_false (by rintro ⟨⟩) (by rintro ⟨⟨⟩, -⟩)
  | ok n =>
      constructor
      · rintro ⟨⟩
        exact ⟨rfl, rfl⟩
      · rintro ⟨hn, he⟩
        rw [Except.ok.inj hn, he]
        rfl

/-- Two ways to treat foreign payloads are the same if both or neither is lenient. -/
theorem eq_iff_lenient_iff {a b : Exclusivity} : a = b ↔ (b = .lenient ↔ a = .lenient) := by
  cases a <;> cases b <;> decide

/-- Resolving fails exactly if no ceiling can be told from what is given. -/
theorem exists_fault_iff : (∃ fault, resolve given lenient environment = .error fault) ↔
    ¬ ∃ n, Requested given (environment depthName) n := by
  simp only [← ceiling_eq_ok_iff]
  unfold resolve
  cases ceiling given environment with
  | error fault => exact iff_of_true ⟨fault, rfl⟩ (by rintro ⟨_, ⟨⟩⟩)
  | ok n => exact iff_of_false (by rintro ⟨_, ⟨⟩⟩) fun h => h ⟨n, rfl⟩

/-- A run is validated as `o` says exactly if the ceiling of `o` is the one requested and its mode
the lenient one exactly when an argument or the environment asks for that.  There are no settings
exactly if no argument gives a ceiling and the environment has a text for it that denotes no count;
and of the environment, nothing matters but what no argument decides. -/
theorem resolve_order (given : Option Nat) (lenient : Bool)
    (environment : String → Option String) :
    (∀ o, resolve given lenient environment = .ok o ↔
      Requested given (environment "FORM_DSL_MAX_NESTING_DEPTH") o.ceiling ∧
      (o.exclusivity = .lenient ↔
        lenient = true ∨ ∃ text ∈ environment "FORM_DSL_LENIENT_PAYLOADS", Affirmative text)) ∧
    ((∃ fault, resolve given lenient environment = .error fault) ↔
      given = none ∧
        ∃ text ∈ environment "FORM_DSL_MAX_NESTING_DEPTH", ¬ ∃ n < Nat.pow 2 64, Denotes text n) ∧
    ∀ other : String → Option String,
      (given = none →
        environment "FORM_DSL_MAX_NESTING_DEPTH" = other "FORM_DSL_MAX_NESTING_DEPTH") →
      (lenient = false →
        environment "FORM_DSL_LENIENT_PAYLOADS" = other "FORM_DSL_LENIENT_PAYLOADS") →
      resolve given lenient environment = resolve given lenient other := by
  refine ⟨fun o => ?_, ?_, fun other depths modes => ?_⟩
  · refine resolve_eq_ok_iff.trans (and_congr ceiling_eq_ok_iff ?_)
    exact eq_iff_lenient_iff.trans (iff_congr Iff.rfl exclusivity_eq_lenient_iff)
  · exact exists_fault_iff.trans not_exists_requested_iff
  · have sameCeiling : ceiling given environment = ceiling given other := by
      cases given with
      | some depth => rfl
      | none => rw [ceiling, ceiling, depthName, depths rfl]
    have sameMode : exclusivity lenient environment = exclusivity lenient other := by
      cases lenient with
      | true => rfl
      | false => rw [exclusivity, exclusivity, lenientName, modes rfl]
    rw [resolve, resolve, sameCeiling, sameMode]

/-- Blanks, a plus and zeros do not matter, nor do capitals; a flag makes up for any text. -/
theorem resolve_order_padded :
    resolve none false
        (fun name => if name = depthName then some " +007\n" else some "\tYes") =
      .ok ⟨7, .lenient⟩ ∧
    resolve (some 5) true (fun _ => some "-1") = resolve (some 5) true (fun _ => none) := by
  have padded : Denotes " +007\n" 7 :=
    ⟨"+007", trims_iff.mpr (by decide), ['+'], ['0', '0', '7'], rfl, .inr rfl, by decide,
      fun c hc => (isDigit_iff c).mp (List.all_eq_true.mp (by decide) c hc), by decide⟩
  have yes : Affirmative "\tYes" := ⟨"Yes", trims_iff.mpr (by decide), by decide⟩
  constructor
  · refine ((resolve_order _ _ _).1 _).mpr ⟨.variable padded (by decide), ?_⟩
    exact iff_of_true rfl (.inr ⟨_, rfl, yes⟩)
  · exact (resolve_order _ _ _).2.2 _ (fun he => by cases he) (fun he => by cases he)

end EntryForm.Settings
