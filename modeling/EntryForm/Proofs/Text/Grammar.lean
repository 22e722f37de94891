import EntryForm.Text.Blank
import EntryForm.Text.Identifier
import EntryForm.Text.Clock

/-!
# Proofs — Text — grammars

The texts a form's values have to be, said without the tests for them:

* `Identifier`: a non-empty text over `[a-z0-9_-]` (`isIdentifier_iff`).
* `Legible`: a text with a character that is not blank (`isBlank_eq_false_iff`).
* `Locale`: `[a-z]{2,3}`, with or without `-[A-Z]{2}` behind it (`isLocale_iff`).
* `NamesMinute t n`, `NamesSecond t`: the text is a time of day, `HH:MM` at minute `n` or
  `HH:MM:SS` (`isClock_iff`, `isClockWithSeconds_iff`).

`lt_iff_of_namesMinute`: two times of day compare as texts as their minutes compare.
-/

namespace EntryForm.Text

/-! ### Character classes -/

def SmallLetter (c : Char) : Prop := 'a' ≤ c ∧ c ≤ 'z'

def CapitalLetter (c : Char) : Prop := 'A' ≤ c ∧ c ≤ 'Z'

def Digit (c : Char) : Prop := '0' ≤ c ∧ c ≤ '9'

theorem isLower_iff (c : Char) : c.isLower = true ↔ SmallLetter c :=
  Bool.and_eq_true_iff.trans (and_congr decide_eq_true_iff decide_eq_true_iff)

theorem isUpper_iff (c : Char) : c.isUpper = true ↔ CapitalLetter c := decide_eq_true_iff

theorem isDigit_iff (c : Char) : c.isDigit = true ↔ Digit c :=
  Bool.and_eq_true_iff.trans (and_congr decide_eq_true_iff decide_eq_true_iff)

/-- A number is printed in digits. -/
theorem isDigit_of_mem_toString {n : Nat} {c : Char} (hc : c ∈ (toString n).toList) :
    c.isDigit = true := by
  rw [Nat.toString_eq_repr, Nat.toList_repr] at hc
  exact Nat.isDigit_of_mem_toDigits (by decide) (by decide) hc

/-! ### Identifiers and legible texts -/

/-- A non-empty text over small letters, digits, `_` and `-`. -/
def Identifier (s : String) : Prop :=
  s ≠ "" ∧ ∀ c ∈ s.toList, SmallLetter c ∨ Digit c ∨ c = '_' ∨ c = '-'

/-- The test of identifiers accepts identifiers and nothing else. -/
theorem isIdentifier_iff (s : String) : isIdentifier s = true ↔ Identifier s := by
  simp only [isIdentifier, isIdentifierChar, Identifier, Bool.and_eq_true, Bool.not_eq_true',
    ← Bool.not_eq_true, String.isEmpty_iff, List.all_eq_true, Bool.or_eq_true, isLower_iff,
    isDigit_iff, beq_iff_eq, or_assoc, ne_eq]

instance (s : String) : Decidable (Identifier s) := decidable_of_iff _ (isIdentifier_iff s)

/-- Some character of the text is not blank. -/
def Legible (s : String) : Prop := ∃ c ∈ s.toList, isBlankChar c = false

/-- A text that is not blank can be read. -/
theorem isBlank_eq_false_iff (s : String) : isBlank s = false ↔ Legible s := by
  simp only [isBlank, Legible, List.all_eq_false, Bool.not_eq_true]

instance (s : String) : Decidable (Legible s) := decidable_of_iff _ (isBlank_eq_false_iff s)

/-! ### Locales -/

/-- Two or three small letters, with or without a hyphen and two capitals behind them. -/
def Locale (s : String) : Prop :=
  ∃ language region : List Char, s.toList = language ++ region ∧
    (language.length = 2 ∨ language.length = 3) ∧ (∀ c ∈ language, SmallLetter c) ∧
    (region = [] ∨ ∃ a b, region = ['-', a, b] ∧ CapitalLetter a ∧ CapitalLetter b)

/-- The test of a region accepts nothing at all, or a hyphen and two capitals. -/
theorem isRegionSuffix_iff (cs : List Char) : isRegionSuffix cs = true ↔
    cs = [] ∨ ∃ a b, cs = ['-', a, b] ∧ CapitalLetter a ∧ CapitalLetter b := by
  constructor
  · intro h
    unfold isRegionSuffix at h
    split at h
    · exact .inl rfl
    · simp only [Bool.and_eq_true, isUpper_iff] at h
      exact .inr ⟨_, _, rfl, h⟩
    · cases h
  · rintro (rfl | ⟨a, b, rfl, ha, hb⟩)
    · rfl
    · simp only [isRegionSuffix, Bool.and_eq_true, isUpper_iff]
      exact ⟨ha, hb⟩

/-- A region does not begin with a small letter, so the language is all that precedes it. -/
theorem takeWhile_language {language region : List Char} (hl : ∀ c ∈ language, SmallLetter c)
    (hr : region = [] ∨ ∃ a b, region = ['-', a, b] ∧ CapitalLetter a ∧ CapitalLetter b) :
    (language ++ region).takeWhile Char.isLower = language ∧
      (language ++ region).dropWhile Char.isLower = region := by
  have inside : ∀ c ∈ language, c.isLower = true := fun c hc => (isLower_iff c).mpr (hl c hc)
  rw [List.takeWhile_append_of_pos inside, List.dropWhile_append_of_pos inside]
  rcases hr with rfl | ⟨a, b, rfl, -⟩
  · simp
  · have hyphen : ('-' : Char).isLower = false := by decide
    simp [hyphen]

/-- The test of locales accepts locales and nothing else. -/
theorem isLocale_iff (s : String) : isLocale s = true ↔ Locale s := by
  simp only [isLocale, Bool.and_eq_true, Bool.or_eq_true, beq_iff_eq, isRegionSuffix_iff]
  constructor
  · rintro ⟨hlen, hr⟩
    exact ⟨_, _, List.takeWhile_append_dropWhile.symm, hlen,
      fun c hc => (isLower_iff c).mp (List.all_eq_true.mp List.all_takeWhile c hc), hr⟩
  · rintro ⟨language, region, hs, hlen, hl, hr⟩
    obtain ⟨ht, hd⟩ := takeWhile_language hl hr
    rw [hs, ht, hd]
    exact ⟨hlen, hr⟩

/-! ### Times of day -/

/-- A number below a hundred, in two decimal digits. -/
def twoDigits (n : Nat) : List Char := [Nat.digitChar (n / 10), Nat.digitChar (n % 10)]

/-- `HH:MM`. -/
def clock (h m : Nat) : String := String.ofList (twoDigits h ++ ':' :: twoDigits m)

/-- `HH:MM:SS`. -/
def clockWithSeconds (h m s : Nat) : String :=
  String.ofList (twoDigits h ++ ':' :: (twoDigits m ++ ':' :: twoDigits s))

/-- The text names minute `n` of the day, as `HH:MM`. -/
def NamesMinute (t : String) (n : Nat) : Prop :=
  ∃ h < 24, ∃ m < 60, t = clock h m ∧ n = 60 * h + m

/-- The text names a second of the day, as `HH:MM:SS`. -/
def NamesSecond (t : String) : Prop := ∃ h < 24, ∃ m < 60, ∃ s < 60, t = clockWithSeconds h m s

/-- A digit is one of ten. -/
theorem digit_cases {c : Char} (h : c.isDigit = true) : ∃ d < 10, c = Nat.digitChar d := by
  simp only [Char.isDigit, Bool.and_eq_true, decide_eq_true_eq, ge_iff_le,
    UInt32.le_iff_toNat_le] at h
  change 48 ≤ c.toNat ∧ c.toNat ≤ 57 at h
  have hd : ∀ d < 10, Char.ofNat (48 + d) = Nat.digitChar d := by decide
  refine ⟨c.toNat - 48, by omega, ?_⟩
  rw [← hd _ (by omega), show 48 + (c.toNat - 48) = c.toNat by omega, Char.ofNat_toNat]

theorem digitChar_lt_digitChar : ∀ d < 10, ∀ e < 10,
    (Nat.digitChar d < Nat.digitChar e ↔ d < e) := by decide

/-- Different digits are different characters. -/
theorem digitChar_inj : ∀ d < 10, ∀ e < 10, (Nat.digitChar d = Nat.digitChar e ↔ d = e) := by
  decide

/-- The digits of a number below a hundred. -/
theorem twoDigits_eq {d e : Nat} (he : e < 10) :
    twoDigits (10 * d + e) = [Nat.digitChar d, Nat.digitChar e] := by
  rw [twoDigits, show (10 * d + e) / 10 = d by omega, show (10 * d + e) % 10 = e by omega]

/-- The test of hours accepts two digits below 24. -/
theorem isHour_iff (a b : Char) : isHour a b = true ↔ ∃ h < 24, twoDigits h = [a, b] := by
  constructor
  · -- behind a 0 or a 1 there can be any digit, behind a 2 there are four
    simp only [isHour, Bool.or_eq_true, Bool.and_eq_true, beq_iff_eq]
    rintro (⟨rfl | rfl, hb⟩ | ⟨rfl, ((rfl | rfl) | rfl) | rfl⟩)
    · obtain ⟨e, he, rfl⟩ := digit_cases hb
      exact ⟨10 * 0 + e, by omega, twoDigits_eq he⟩
    · obtain ⟨e, he, rfl⟩ := digit_cases hb
      exact ⟨10 * 1 + e, by omega, twoDigits_eq he⟩
    · exact ⟨20, by decide, rfl⟩
    · exact ⟨21, by decide, rfl⟩
    · exact ⟨22, by decide, rfl⟩
    · exact ⟨23, by decide, rfl⟩
  · have hours : ∀ h < 24, isHour (Nat.digitChar (h / 10)) (Nat.digitChar (h % 10)) = true := by
      decide
    rintro ⟨h, hh, e⟩
    obtain ⟨rfl, rfl⟩ : Nat.digitChar (h / 10) = a ∧ Nat.digitChar (h % 10) = b := by
      simpa [twoDigits] using e
    exact hours h hh

/-- The test of minutes and seconds accepts two digits below 60. -/
theorem isSixtieth_iff (a b : Char) : isSixtieth a b = true ↔ ∃ m < 60, twoDigits m = [a, b] := by
  constructor
  · -- any two digits of which the first is at most 5
    simp only [isSixtieth, Bool.and_eq_true, decide_eq_true_eq]
    rintro ⟨⟨ha, h5⟩, hb⟩
    obtain ⟨d, hd, rfl⟩ := digit_cases ha
    obtain ⟨e, he, rfl⟩ := digit_cases hb
    have below : ∀ d < 10, (Nat.digitChar d).toNat ≤ '5'.toNat → d < 6 := by decide
    have := below d hd h5
    exact ⟨10 * d + e, by omega, twoDigits_eq he⟩
  · have sixtieths : ∀ m < 60,
        isSixtieth (Nat.digitChar (m / 10)) (Nat.digitChar (m % 10)) = true := by decide
    rintro ⟨m, hm, e⟩
    obtain ⟨rfl, rfl⟩ : Nat.digitChar (m / 10) = a ∧ Nat.digitChar (m % 10) = b := by
      simpa [twoDigits] using e
    exact sixtieths m hm

theorem clock_toList (h m : Nat) : (clock h m).toList = twoDigits h ++ ':' :: twoDigits m :=
  String.toList_ofList

theorem clockWithSeconds_toList (h m s : Nat) : (clockWithSeconds h m s).toList =
    twoDigits h ++ ':' :: (twoDigits m ++ ':' :: twoDigits s) :=
  String.toList_ofList

/-- The test of times accepts the texts that name a minute of the day. -/
theorem isClock_iff (t : String) : isClock t = true ↔ ∃ n, NamesMinute t n := by
  constructor
  · intro ht
    unfold isClock at ht
    split at ht
    · next h₁ h₂ m₁ m₂ ht' =>
      simp only [Bool.and_eq_true, isHour_iff, isSixtieth_iff] at ht
      obtain ⟨⟨h, hh, eh⟩, m, hm, em⟩ := ht
      refine ⟨_, h, hh, m, hm, String.toList_inj.mp ?_, rfl⟩
      rw [clock_toList, eh, em, ht']
      rfl
    · cases ht
  · rintro ⟨n, h, hh, m, hm, rfl, rfl⟩
    simp only [isClock, clock_toList, twoDigits, List.cons_append, List.nil_append,
      Bool.and_eq_true]
    exact ⟨(isHour_iff _ _).mpr ⟨h, hh, rfl⟩, (isSixtieth_iff _ _).mpr ⟨m, hm, rfl⟩⟩

/-- The test of times with seconds accepts those as well, and the texts that name a second. -/
theorem isClockWithSeconds_iff (t : String) :
    isClockWithSeconds t = true ↔ (∃ n, NamesMinute t n) ∨ NamesSecond t := by
  rw [← isClock_iff]
  constructor
  · intro ht
    unfold isClockWithSeconds at ht
    split at ht
    · next h₁ h₂ m₁ m₂ ht' =>
      exact .inl (by rw [isClock, ht']; exact ht)
    · next h₁ h₂ m₁ m₂ s₁ s₂ ht' =>
      simp only [Bool.and_eq_true, isHour_iff, isSixtieth_iff] at ht
      obtain ⟨⟨⟨h, hh, eh⟩, m, hm, em⟩, s, hs, es⟩ := ht
      refine .inr ⟨h, hh, m, hm, s, hs, String.toList_inj.mp ?_⟩
      rw [clockWithSeconds_toList, eh, em, es, ht']
      rfl
    · cases ht
  · rintro (ht | ⟨h, hh, m, hm, s, hs, rfl⟩)
    · unfold isClock at ht
      split at ht
      · next h₁ h₂ m₁ m₂ ht' => rw [isClockWithSeconds, ht']; exact ht
      · cases ht
    · simp only [isClockWithSeconds, clockWithSeconds_toList, twoDigits, List.cons_append,
        List.nil_append, Bool.and_eq_true]
      exact ⟨⟨(isHour_iff _ _).mpr ⟨h, hh, rfl⟩, (isSixtieth_iff _ _).mpr ⟨m, hm, rfl⟩⟩,
        (isSixtieth_iff _ _).mpr ⟨s, hs, rfl⟩⟩

/-! ### The order of times -/

/-- Two digits compare as the numbers they write. -/
theorem twoDigits_append_lt {n n' : Nat} (hn : n < 100) (hn' : n' < 100) (cs cs' : List Char) :
    twoDigits n ++ cs < twoDigits n' ++ cs' ↔ n < n' ∨ n = n' ∧ cs < cs' := by
  simp only [twoDigits, List.cons_append, List.nil_append, List.cons_lt_cons_iff,
    digitChar_lt_digitChar _ (show n / 10 < 10 by omega) _ (show n' / 10 < 10 by omega),
    digitChar_lt_digitChar _ (show n % 10 < 10 by omega) _ (show n' % 10 < 10 by omega),
    digitChar_inj _ (show n / 10 < 10 by omega) _ (show n' / 10 < 10 by omega),
    digitChar_inj _ (show n % 10 < 10 by omega) _ (show n' % 10 < 10 by omega)]
  -- what is left is about quotients and remainders, once it is settled how the rests compare
  by_cases hcs : cs < cs' <;> simp only [hcs, and_true, and_false, or_false] <;> omega

/-- Times of day compare as texts as their minutes since midnight compare. -/
theorem lt_iff_of_namesMinute {t t' : String} {n n' : Nat} (ht : NamesMinute t n)
    (ht' : NamesMinute t' n') : t < t' ↔ n < n' := by
  obtain ⟨h, hh, m, hm, rfl, rfl⟩ := ht
  obtain ⟨h', hh', m', hm', rfl, rfl⟩ := ht'
  change (clock h m).toList < (clock h' m').toList ↔ _
  have minutes : twoDigits m ++ [] < twoDigits m' ++ [] ↔ m < m' ∨ m = m' ∧ [] < [] :=
    twoDigits_append_lt (by omega) (by omega) [] []
  simp only [List.append_nil, List.lt_irrefl, and_false, or_false] at minutes
  rw [clock_toList, clock_toList, twoDigits_append_lt (by omega) (by omega),
    List.cons_lt_cons_iff, minutes]
  simp only [Char.lt_irrefl, true_and, false_or]
  omega

end EntryForm.Text
