import EntryForm.Decimal.Style
import EntryForm.Proofs.Text.Grammar

/-!
# Proofs — Decimal — printed numbers are words

A number is printed in digits, a point, a sign and letters.  There is something printed and no
character of it is blank, in whatever style (`write_isWord`).
-/

namespace EntryForm

namespace Text

/-- No character of the text is blank. -/
def IsSolid (s : String) : Prop := ∀ c ∈ s.toList, isBlankChar c = false

instance (s : String) : Decidable (IsSolid s) := List.decidableBAll _ _

/-- There are characters in the text, and none of them is blank. -/
structure IsWord (s : String) : Prop where
  solid : IsSolid s
  ne_nil : s.toList ≠ []

instance (s : String) : Decidable (IsWord s) :=
  decidable_of_iff (IsSolid s ∧ s.toList ≠ [])
    ⟨fun h => ⟨h.1, h.2⟩, fun h => ⟨h.solid, h.ne_nil⟩⟩

/-- Two texts side by side are solid if both are. -/
theorem isSolid_append {a b : String} : IsSolid (a ++ b) ↔ IsSolid a ∧ IsSolid b := by
  rw [IsSolid, String.toList_append, List.forall_mem_append]
  rfl

/-- Characters of a solid text make a solid text. -/
theorem IsSolid.ofList {cs : List Char} {s : String} (h : IsSolid s) (sub : cs ⊆ s.toList) :
    IsSolid (String.ofList cs) := by
  rw [IsSolid, String.toList_ofList]
  exact fun c hc => h c (sub hc)

/-- A word stays a word with solid text behind it. -/
theorem IsWord.append {a b : String} (ha : IsWord a) (hb : IsSolid b) : IsWord (a ++ b) :=
  ⟨isSolid_append.mpr ⟨ha.solid, hb⟩, by
    rw [String.toList_append]
    exact List.append_ne_nil_of_left_ne_nil ha.ne_nil _⟩

/-- Solid text in front of a word makes a word. -/
theorem IsSolid.append {a b : String} (ha : IsSolid a) (hb : IsWord b) : IsWord (a ++ b) :=
  ⟨isSolid_append.mpr ⟨ha, hb.solid⟩, by
    rw [String.toList_append]
    exact List.append_ne_nil_of_right_ne_nil _ hb.ne_nil⟩

/-- A digit is not blank. -/
theorem isBlankChar_of_isDigit {c : Char} (h : c.isDigit = true) : isBlankChar c = false := by
  obtain ⟨low, high⟩ : 48 ≤ c.toNat ∧ c.toNat ≤ 57 := (isDigit_iff c).mp h
  simp only [isBlankChar, Bool.or_eq_false_iff, Bool.and_eq_false_iff, decide_eq_false_iff_not,
    beq_eq_false_iff_ne]
  omega

/-- A count is written as a word. -/
theorem isWord_toString (n : Nat) : IsWord (toString n) := by
  constructor
  · exact fun c hc => isBlankChar_of_isDigit (isDigit_of_mem_toString hc)
  · rw [Nat.toString_eq_repr, Nat.toList_repr]
    exact Nat.toDigits_ne_nil

/-- An integer is written as a word. -/
theorem isWord_toString_int (n : Int) : IsWord (toString n) := by
  cases n with
  | ofNat n => exact isWord_toString n
  | negSucc n => exact IsSolid.append (by decide) (isWord_toString (n + 1))

end Text

namespace Decimal

open Text

theorem isSolid_zeros (n : Nat) : IsSolid (zeros n) := by
  intro c hc
  rw [zeros, String.toList_ofList] at hc
  exact List.eq_of_mem_replicate hc ▸ rfl

/-- Digits with a point among them are a word. -/
theorem isWord_positional (s : Style) (d : Digits) : IsWord (positional s d) := by
  have digits := isWord_toString d.digits
  rw [positional]
  dsimp only
  split
  · refine (digits.append (isSolid_zeros _)).append ?_
    split <;> decide
  · split
    · refine (IsSolid.append (digits.solid.ofList (List.take_subset _ _)) ?_).append
        (digits.solid.ofList (List.drop_subset _ _))
      exact ⟨by decide, by decide⟩
    · exact IsSolid.append (isSolid_append.mpr ⟨by decide, isSolid_zeros _⟩) digits

/-- Digits with an exponent are a word. -/
theorem isWord_scientific (s : Style) (d : Digits) : IsWord (scientific s d) := by
  have digits := isWord_toString d.digits
  rw [scientific]
  refine IsSolid.append ?_ (isWord_toString_int _)
  simp only [isSolid_append]
  refine ⟨⟨⟨digits.solid.ofList (List.take_subset _ _), ?_⟩, by decide⟩, ?_⟩
  · split
    · decide
    · exact isSolid_append.mpr ⟨by decide, digits.solid.ofList (List.drop_subset _ _)⟩
  · split <;> decide

theorem isWord_writeDigits (s : Style) (d : Digits) : IsWord (writeDigits s d) := by
  rw [writeDigits]
  split
  · exact isWord_positional s d
  · split
    · exact isWord_positional s d
    · exact isWord_scientific s d

/-- A number is written as a word, if the infinities and not-a-number are. -/
theorem write_isWord {s : Style} (hi : IsWord s.infinity) (hn : IsWord s.notANumber) (x : Float) :
    IsWord (write s x) := by
  have sign : IsSolid (if (Binary.ofBits x.toBits).negative then "-" else "") := by
    split <;> decide
  rw [write]
  split
  · exact hn
  · split
    · exact sign.append hi
    · exact sign.append (isWord_writeDigits s _)

end Decimal

end EntryForm
