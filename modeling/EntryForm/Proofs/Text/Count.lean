import EntryForm.Proofs.Text.Grammar
import EntryForm.Text.Count

/-!
# Proofs — Text — counts

What stands between blanks, and what digits write.

* `Trims s t`: `t` is what is left of `s` without the blanks at its ends (`trims_iff`).
* `Writes s n`: `s` is the number `n` in decimal digits, zeros in front included, behind a plus or
  nothing.  Those are the texts that are read as counts, if the number is small enough
  (`Count.read_eq_ok_iff`).
* `Denotes s n`: `s` writes `n` between blanks.
-/

namespace EntryForm.Text

/-! ### What stands between blanks -/

/-- The one text is the other with blanks around it, and does not begin or end with one. -/
def Trims (s t : String) : Prop :=
  ∃ before after, s.toList = before ++ t.toList ++ after ∧
    (∀ c ∈ before, isBlankChar c = true) ∧ (∀ c ∈ after, isBlankChar c = true) ∧
    (∀ c ∈ t.toList.head?, isBlankChar c = false) ∧
    ∀ c ∈ t.toList.getLast?, isBlankChar c = false

/-- The blanks in front of a text are those before its first other character. -/
theorem dropWhile_blanks {before rest : List Char} (hb : ∀ c ∈ before, isBlankChar c = true)
    (hr : ∀ c ∈ rest.head?, isBlankChar c = false) :
    (before ++ rest).dropWhile isBlankChar = rest := by
  rw [List.dropWhile_append_of_pos hb]
  cases rest with
  | nil => rfl
  | cons c rest =>
      exact List.dropWhile_cons_of_neg (Bool.eq_false_iff.mp (hr c (Option.mem_some.mpr rfl)))

/-- What is left begins with no blank. -/
theorem head?_dropWhile_blanks (cs : List Char) :
    ∀ c ∈ (cs.dropWhile isBlankChar).head?, isBlankChar c = false := by
  intro c hc
  have first := List.head?_dropWhile_not isBlankChar cs
  rw [Option.mem_def.mp hc] at first
  exact first

/-- Blanks at the end are dropped, up to a character that is not one. -/
theorem dropEndBlanks_append {rest after : List Char} (ha : ∀ c ∈ after, isBlankChar c = true)
    (hr : ∀ c ∈ rest.getLast?, isBlankChar c = false) : dropEndBlanks (rest ++ after) = rest := by
  rw [dropEndBlanks, List.reverse_append, dropWhile_blanks, List.reverse_reverse]
  · exact fun c hc => ha c (List.mem_reverse.mp hc)
  · rw [List.head?_reverse]
    exact hr

/-- The end of a text that is not blank, and the blanks behind it. -/
theorem exists_dropEndBlanks (cs : List Char) :
    ∃ after, cs = dropEndBlanks cs ++ after ∧ (∀ c ∈ after, isBlankChar c = true) ∧
      ∀ c ∈ (dropEndBlanks cs).getLast?, isBlankChar c = false := by
  refine ⟨(cs.reverse.takeWhile isBlankChar).reverse, ?_, fun c hc => ?_, ?_⟩
  · rw [dropEndBlanks, ← List.reverse_append, List.takeWhile_append_dropWhile,
      List.reverse_reverse]
  · exact List.all_eq_true.mp List.all_takeWhile c (List.mem_reverse.mp hc)
  · rw [dropEndBlanks, List.getLast?_reverse]
    exact head?_dropWhile_blanks _

/-- Dropping blanks at the end leaves the beginning as it is. -/
theorem head?_dropEndBlanks {cs : List Char} (h : ∀ c ∈ cs.head?, isBlankChar c = false) :
    ∀ c ∈ (dropEndBlanks cs).head?, isBlankChar c = false := by
  obtain ⟨after, whole, -, -⟩ := exists_dropEndBlanks cs
  intro c hc
  refine h c ?_
  rw [whole, List.head?_append, Option.mem_def.mp hc]
  rfl

/-- Of the texts that are another without blanks around it there is one, which is found. -/
theorem trims_iff {s t : String} : Trims s t ↔ t = trim s := by
  constructor
  · rintro ⟨before, after, whole, hb, ha, first, last⟩
    rw [← String.toList_inj, trim, String.toList_ofList, whole, List.append_assoc]
    cases ht : t.toList with
    | nil =>
        -- the text is blank
        have blank : ∀ c ∈ before ++ after, isBlankChar c = true := fun c hc =>
          (List.mem_append.mp hc).elim (hb c) (ha c)
        rw [List.nil_append, ← List.append_nil (before ++ after), dropWhile_blanks blank]
        · rfl
        · exact fun c hc => by cases hc
    | cons c cs =>
        rw [ht] at first last
        rw [dropWhile_blanks hb, dropEndBlanks_append ha last]
        exact first
  · rintro rfl
    have first := head?_dropWhile_blanks s.toList
    obtain ⟨after, whole, ha, last⟩ := exists_dropEndBlanks (s.toList.dropWhile isBlankChar)
    rw [Trims, trim, String.toList_ofList]
    refine ⟨s.toList.takeWhile isBlankChar, after, ?_, ?_, ha, head?_dropEndBlanks first, last⟩
    · rw [List.append_assoc, ← whole, List.takeWhile_append_dropWhile]
    · exact fun c hc => List.all_eq_true.mp List.all_takeWhile c hc

/-! ### What digits write -/

/-- The text is a number in decimal digits, at least one, behind a plus or nothing. -/
def Writes (s : String) (n : Nat) : Prop :=
  ∃ sign digits, s.toList = sign ++ digits ∧ (sign = [] ∨ sign = ['+']) ∧ digits ≠ [] ∧
    (∀ c ∈ digits, Digit c) ∧ n = Nat.ofDigitChars 10 digits 0

/-- The text writes a number between blanks. -/
def Denotes (s : String) (n : Nat) : Prop := ∃ t, Trims s t ∧ Writes t n

/-- Digits do not make a number less. -/
theorem le_ofDigitChars (cs : List Char) (n : Nat) : n ≤ Nat.ofDigitChars 10 cs n := by
  rw [Nat.ofDigitChars_eq_ofDigitChars_zero]
  have positive : 0 < 10 ^ cs.length := Nat.pow_pos (by decide)
  have := Nat.le_mul_of_pos_left n positive
  omega

/-- Digits continue a number; once it is too large, it does not become smaller again. -/
theorem Count.readDigits_eq_ok_iff {n k : Nat} {cs : List Char} (hn : n < bound) :
    readDigits n cs = .ok k ↔
      (∀ c ∈ cs, Digit c) ∧ k = Nat.ofDigitChars 10 cs n ∧ k < bound := by
  induction cs generalizing n with
  | nil =>
      rw [readDigits, Except.ok.injEq, Nat.ofDigitChars_nil]
      constructor
      · rintro rfl
        exact ⟨List.forall_mem_nil _, rfl, hn⟩
      · rintro ⟨-, rfl, -⟩
        rfl
  | cons c cs ih =>
      rw [readDigits, Nat.ofDigitChars_cons, List.forall_mem_cons, ← isDigit_iff]
      by_cases digit : c.isDigit = true
      · rw [if_neg (by simp [digit])]
        dsimp only
        by_cases small : 10 * n + (c.toNat - '0'.toNat) < bound
        · rw [if_pos small, ih small, and_iff_right digit]
        · rw [if_neg small]
          refine iff_of_false (by simp) ?_
          rintro ⟨-, rfl, below⟩
          exact small (Nat.lt_of_le_of_lt (le_ofDigitChars cs _) below)
      · rw [if_pos (by simp [digit])]
        exact iff_of_false (by simp) fun h => digit h.1.1

/-- The texts that are read as counts are those that write one. -/
theorem Count.read_eq_ok_iff {s : String} {n : Nat} :
    read s = .ok n ↔ Writes s n ∧ n < Nat.pow 2 64 := by
  have zero : 0 < bound := by decide
  constructor
  · intro h
    unfold read at h
    split at h
    · cases h
    · cases h
    · next digits alone hs =>
      obtain ⟨hdigits, value, small⟩ := (readDigits_eq_ok_iff zero).mp h
      exact ⟨⟨['+'], digits, hs, .inr rfl, alone, hdigits, value⟩, small⟩
    · next nonempty _ _ =>
      obtain ⟨hdigits, value, small⟩ := (readDigits_eq_ok_iff zero).mp h
      exact ⟨⟨[], s.toList, rfl, .inl rfl, nonempty, hdigits, value⟩, small⟩
  · rintro ⟨⟨sign, digits, hs, hsign, hne, hdigits, value⟩, small⟩
    have digitsRead : readDigits 0 digits = .ok n :=
      (readDigits_eq_ok_iff zero).mpr ⟨hdigits, value, small⟩
    obtain ⟨c, cs, rfl⟩ := List.exists_cons_of_ne_nil hne
    rcases hsign with rfl | rfl
    · have unsigned : c ≠ '+' := by
        rintro rfl
        exact absurd ((isDigit_iff _).mpr (hdigits _ List.mem_cons_self)) (by decide)
      rw [read, hs, List.nil_append]
      split
      · next he => cases he
      · next he => exact absurd (List.cons.inj he).1 unsigned
      · next he => exact absurd (List.cons.inj he).1 unsigned
      · exact digitsRead
    · rw [read, hs]
      exact digitsRead

end EntryForm.Text
