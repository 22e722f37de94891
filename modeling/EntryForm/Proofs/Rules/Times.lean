import EntryForm.Proofs.Rules.Checks
import EntryForm.Proofs.Text.Bytes
import EntryForm.Proofs.Text.Steps
import EntryForm.Rules.Payload

/-!
# Proofs — Rules — times of day

What the bounds of a time picker mean: they are times of day, and the lower one is not the later.
The rule compares texts, and only well-formed ones; that is enough, because these compare byte by
byte as the minutes they name do.

* `kindsAt`: the kinds of what is reported at a place.
* `Malformed`, `Reversed`: what is wrong with a time and with two bounds, said in minutes.
* `TimePicker.times_of_day`: the tests for times accept the renderings of times of day, the order
  of the bytes is that of the minutes, and what is reported at the three times of a picker is what
  is wrong with them.
-/

namespace EntryForm.Text

/-- The text names a minute of the day. -/
def Minute (s : String) : Prop := ∃ n, NamesMinute s n

/-- The text names a minute of the day or a second of it. -/
def MinuteOrSecond (s : String) : Prop := Minute s ∨ NamesSecond s

instance : DecidablePred Minute := fun s => decidable_of_iff _ (isClock_iff s)

instance : DecidablePred MinuteOrSecond := fun s => decidable_of_iff _ (isClockWithSeconds_iff s)

/-- The texts that name a minute, spelled out. -/
theorem minute_iff {s : String} : Minute s ↔ ∃ h < 24, ∃ m < 60, s = clock h m := by
  constructor
  · rintro ⟨n, h, hh, m, hm, rfl, -⟩
    exact ⟨h, hh, m, hm, rfl⟩
  · rintro ⟨h, hh, m, hm, rfl⟩
    exact ⟨_, h, hh, m, hm, rfl, rfl⟩

/-- The texts that name a minute or a second, spelled out. -/
theorem minuteOrSecond_iff {s : String} : MinuteOrSecond s ↔
    ∃ h < 24, ∃ m < 60, s = clock h m ∨ ∃ second < 60, s = clockWithSeconds h m second := by
  rw [MinuteOrSecond, minute_iff]
  constructor
  · rintro (⟨h, hh, m, hm, rfl⟩ | ⟨h, hh, m, hm, second, hs, rfl⟩)
    · exact ⟨h, hh, m, hm, .inl rfl⟩
    · exact ⟨h, hh, m, hm, .inr ⟨second, hs, rfl⟩⟩
  · rintro ⟨h, hh, m, hm, rfl | ⟨second, hs, rfl⟩⟩
    · exact .inl ⟨h, hh, m, hm, rfl⟩
    · exact .inr ⟨h, hh, m, hm, second, hs, rfl⟩

/-- The bytes of two times compare as the minutes do. -/
theorem bytes_lt_iff_of_namesMinute {s t : String} {m n : Nat} (hs : NamesMinute s m)
    (ht : NamesMinute t n) : bytes s < bytes t ↔ m < n :=
  bytes_lt_iff.trans (lt_iff_of_namesMinute hs ht)

end EntryForm.Text

namespace EntryForm.Rules
open EntryForm.Text

/-! ### What is wrong with times -/

/-- The value is there and not what it has to be. -/
def Malformed (P : String → Prop) : Option String → Prop
  | none => False
  | some s => ¬ P s

instance (P : String → Prop) [DecidablePred P] : DecidablePred (Malformed P)
  | none => inferInstanceAs (Decidable False)
  | some s => inferInstanceAs (Decidable (¬ P s))

/-- Both bounds are there, each names a minute of the day, and the lower bound a later one. -/
def Reversed : Option String → Option String → Prop
  | some earliest, some latest =>
      ∃ m n, NamesMinute earliest m ∧ NamesMinute latest n ∧ n < m
  | _, _ => False

/-- Once it is known which texts are times, minutes need not be looked at. -/
theorem reversed_iff {earliest latest : String} : Reversed (some earliest) (some latest) ↔
    (isClock earliest = true ∧ isClock latest = true) ∧ latest < earliest := by
  constructor
  · rintro ⟨m, n, hm, hn, later⟩
    exact ⟨⟨(isClock_iff _).mpr ⟨m, hm⟩, (isClock_iff _).mpr ⟨n, hn⟩⟩,
      (lt_iff_of_namesMinute hn hm).mpr later⟩
  · rintro ⟨⟨he, hl⟩, lt⟩
    obtain ⟨m, hm⟩ := (isClock_iff _).mp he
    obtain ⟨n, hn⟩ := (isClock_iff _).mp hl
    exact ⟨m, n, hm, hn, (lt_iff_of_namesMinute hn hm).mp lt⟩

/-- A bound that is malformed is not compared. -/
theorem not_reversed_of_malformed {earliest latest : Option String}
    (h : Malformed Minute latest) : ¬ Reversed earliest latest := by
  intro reversed
  cases earliest <;> cases latest
  case some.some =>
    obtain ⟨-, n, -, hn, -⟩ := reversed
    exact h ⟨n, hn⟩
  all_goals exact reversed

instance : ∀ earliest latest, Decidable (Reversed earliest latest)
  | some _, some _ => decidable_of_iff _ reversed_iff.symm
  | none, _ => inferInstanceAs (Decidable False)
  | some _, none => inferInstanceAs (Decidable False)

/-! ### What is reported at a place -/

/-- The kinds of what is reported at a place, which the text of a path tells. -/
def kindsAt (p : Path) (vs : List Violation) : List Violation.Kind :=
  (vs.filter (·.path.render = p.render)).map Violation.kind

section Places

variable {p : Path} {name other : String}

theorem kindsAt_append (vs ws : List Violation) :
    kindsAt p (vs ++ ws) = kindsAt p vs ++ kindsAt p ws := by
  rw [kindsAt, List.filter_append, List.map_append]
  rfl

/-- A check is found at its own key only. -/
theorem kindsAt_reportIf {defect : Bool} {cause : Cause} :
    kindsAt (p.field other) (reportIf defect (p.field name) cause) =
      if name = other ∧ defect = true then [cause.kind] else [] := by
  cases defect with
  | false => simp [reportIf, kindsAt]
  | true =>
      by_cases h : name = other
      · subst h
        simp [reportIf, kindsAt, Violation.kind]
      · have hne : (p.field name).render ≠ (p.field other).render :=
          fun he => h (Path.render_field_inj.mp he)
        simp [reportIf, kindsAt, h, hne]

/-- The check of a time is found at its key exactly if the time is malformed. -/
theorem kindsAt_timeOfDay {wellFormed : String → Bool} {expected : String}
    {P : String → Prop} [DecidablePred P] (h : ∀ s, wellFormed s = true ↔ P s)
    {value : Option String} :
    kindsAt (p.field other) (timeOfDay wellFormed expected value (p.field name)) =
      if name = other ∧ Malformed P value then [.patternMismatch] else [] := by
  cases value with
  | none => exact (if_neg fun he => he.2).symm
  | some s =>
      rw [timeOfDay, kindsAt_reportIf]
      refine if_congr (and_congr_right fun _ => ?_) rfl rfl
      rw [Malformed, ← h, Bool.not_eq_true', Bool.not_eq_true]

/-- The texts are compared where both are times, and then the minutes are. -/
theorem kindsAt_orderViolations {t : TimePicker} :
    kindsAt (p.field other)
        (if absentOr isClock t.minTime && absentOr isClock t.maxTime then t.orderViolations p
        else []) =
      if "max_time" = other ∧ Reversed t.minTime t.maxTime then [.outOfRange] else [] := by
  unfold TimePicker.orderViolations
  rcases t.minTime with _ | earliest <;> rcases t.maxTime with _ | latest
  case some.some =>
    have gate : (absentOr isClock (some earliest) && absentOr isClock (some latest)) =
        (isClock earliest && isClock latest) := rfl
    rw [gate, apply_ite (kindsAt _), kindsAt_reportIf]
    by_cases both : (isClock earliest && isClock latest) = true
    · rw [if_pos both]
      refine if_congr (and_congr_right fun _ => ?_) rfl rfl
      rw [decide_eq_true_eq, reversed_iff, ← Bool.and_eq_true, and_iff_right both]
    · rw [if_neg both, if_neg fun h => both (Bool.and_eq_true_iff.mpr (reversed_iff.mp h.2).1)]
      rfl
  all_goals simp [kindsAt, Reversed]

end Places

end EntryForm.Rules

namespace EntryForm
open Text Rules

/-- The tests for times accept exactly the renderings of times of day; the order of the bytes of
two such texts is that of the minutes they name; and so what is reported at the times of a picker
says whether each is a time and whether the bounds are in order, at the upper bound one thing at
most. -/
theorem TimePicker.times_of_day :
    (∀ s, isClock s = true ↔ ∃ h < 24, ∃ m < 60, s = clock h m) ∧
    (∀ s, isClockWithSeconds s = true ↔
      ∃ h < 24, ∃ m < 60, s = clock h m ∨ ∃ second < 60, s = clockWithSeconds h m second) ∧
    (∀ s t m n, NamesMinute s m → NamesMinute t n → (bytes s < bytes t ↔ m < n)) ∧
    ∀ (t : TimePicker) (p : Path),
      kindsAt (p.field "min_time") (t.violations p) =
        (if Malformed Minute t.minTime then [.patternMismatch] else []) ∧
      kindsAt (p.field "max_time") (t.violations p) =
        (if Malformed Minute t.maxTime then [.patternMismatch]
        else if Reversed t.minTime t.maxTime then [.outOfRange] else []) ∧
      kindsAt (p.field "default_time") (t.violations p) =
        (if Malformed MinuteOrSecond t.defaultTime then [.patternMismatch] else []) := by
  refine ⟨fun s => (isClock_iff s).trans minute_iff,
    fun s => (isClockWithSeconds_iff s).trans minuteOrSecond_iff,
    fun s t m n => bytes_lt_iff_of_namesMinute, fun t p => ?_⟩
  have minutes (s : String) : isClock s = true ↔ Minute s := isClock_iff s
  have seconds (s : String) : isClockWithSeconds s = true ↔ MinuteOrSecond s :=
    isClockWithSeconds_iff s
  -- each check reports at one of six keys, and the three keys looked at differ
  simp only [TimePicker.violations, oneOf, between, kindsAt_append, kindsAt_reportIf,
    kindsAt_timeOfDay minutes, kindsAt_timeOfDay seconds, kindsAt_orderViolations,
    String.reduceEq, false_and, true_and, if_false, List.nil_append, List.append_nil]
  rw [and_true]
  by_cases malformed : Malformed Minute t.maxTime
  · rw [if_pos malformed, if_pos malformed, if_neg (not_reversed_of_malformed malformed)]
    rfl
  · rw [if_neg malformed, if_neg malformed]
    rfl

/-- A picker that closes at half past nine, opens at five, and asks for an hour that is none. -/
theorem TimePicker.times_of_day_crossed :
    bytes "09:30" < bytes "17:00" ∧
    kindsAt (Path.root.field "max_time") (TimePicker.violations .root
      { minTime := some "17:00", maxTime := some "09:30" }) = [.outOfRange] ∧
    kindsAt (Path.root.field "default_time") (TimePicker.violations .root
      { defaultTime := some "24:00:00" }) = [.patternMismatch] := by
  obtain ⟨-, -, order, picker⟩ := times_of_day
  have half : NamesMinute "09:30" 570 := ⟨9, by decide, 30, by decide, by decide, rfl⟩
  have five : NamesMinute "17:00" 1020 := ⟨17, by decide, 0, by decide, by decide, rfl⟩
  refine ⟨(order _ _ _ _ half five).mpr (by decide), ?_, ?_⟩
  · rw [(picker _ _).2.1]
    decide
  · rw [(picker _ _).2.2]
    decide

end EntryForm
