import EntryForm.Decimal.Style
import EntryForm.Proofs.Text.Grammar

/-!
# Proofs — Decimal — infinities in messages

A bound in a message is written in digits unless it is infinite or not a number.  So the text tells
an infinite bound from all others (`contains_infinities`).
-/

namespace EntryForm.Decimal

/-! ### Numbers that are not finite -/

/-- A number is finite if it is neither infinite nor not a number. -/
theorem isFinite_eq (x : Float) : x.isFinite = (!x.isNaN && !x.isInf) := by
  rw [Float.isFinite, Float.isNaN, Float.isInf, Float.Model.isFinite, Float.Model.isNaN,
    Float.Model.isInf]
  cases x.toModel.unpack <;> rfl

/-- An infinity is a number. -/
theorem isNaN_eq_false_of_isInf {x : Float} (h : x.isInf = true) : x.isNaN = false := by
  rw [Float.isInf, Float.Model.isInf] at h
  rw [Float.isNaN, Float.Model.isNaN]
  cases hx : x.toModel.unpack with
  | notANumber => rw [hx] at h; cases h
  | _ => rfl

/-- What is not a number is less than nothing, and nothing is less than it. -/
theorem isNaN_eq_false_of_lt {x y : Float} (h : x < y) : x.isNaN = false ∧ y.isNaN = false := by
  have less : x.toModel.unpack.lt y.toModel.unpack = true :=
    of_decide_eq_true (p := x.toModel < y.toModel) h
  rw [Float.Model.UnpackedFloat.lt] at less
  rw [Float.isNaN, Float.isNaN, Float.Model.isNaN, Float.Model.isNaN]
  cases hx : x.toModel.unpack with
  | notANumber => rw [hx] at less; cases less
  | _ =>
      cases hy : y.toModel.unpack with
      | notANumber => rw [hx, hy] at less; cases less
      | _ => exact ⟨rfl, rfl⟩

/-! ### Texts -/

/-- How a message writes the two infinities. -/
def infinities : List String := ["inf", "-inf"]

/-- A digit or a decimal point. -/
def IsNumeral (c : Char) : Prop := c.isDigit = true ∨ c = '.'

/-- A count is written in numerals. -/
theorem numerals_toString (n : Nat) : ∀ c ∈ (toString n).toList, IsNumeral c :=
  fun _ hc => .inl (Text.isDigit_of_mem_toString hc)

/-- Zeros are numerals. -/
theorem numerals_zeros (n : Nat) : ∀ c ∈ (zeros n).toList, IsNumeral c := by
  intro c hc
  rw [zeros, String.toList_ofList] at hc
  exact .inl (List.eq_of_mem_replicate hc ▸ rfl)

/-- Digits are written in numerals, whatever the form. -/
theorem numerals_writeDigits (d : Digits) :
    ∀ c ∈ (writeDigits .message d).toList, IsNumeral c := by
  have digits := numerals_toString d.digits
  show ∀ c ∈ (positional .message d).toList, IsNumeral c
  rw [positional]
  split
  · simp only [String.toList_append, List.forall_mem_append]
    exact ⟨⟨digits, numerals_zeros _⟩, nofun⟩
  · dsimp only
    split
    · simp only [String.toList_append, String.toList_ofList, List.forall_mem_append]
      exact ⟨⟨fun c hc => digits c (List.mem_of_mem_take hc), by simp [IsNumeral]⟩,
        fun c hc => digits c (List.mem_of_mem_drop hc)⟩
    · simp only [String.toList_append, List.forall_mem_append]
      exact ⟨⟨by simp [IsNumeral], numerals_zeros _⟩, digits⟩

/-- An infinity is written as one of the words for it. -/
theorem write_of_isInf {x : Float} (h : x.isInf = true) : write .message x ∈ infinities := by
  simp only [write, isNaN_eq_false_of_isInf h, h, Bool.false_eq_true, if_false, if_true]
  cases (Binary.ofBits x.toBits).negative <;> decide

/-- No other number is written as one of these words. -/
theorem write_of_not_isInf {x : Float} (h : x.isInf = false) : write .message x ∉ infinities := by
  -- the letter of the infinities is not a numeral
  have letter : 'i' ∉ (write .message x).toList := by
    cases hn : x.isNaN with
    | true =>
        simp only [write, hn, if_true]
        decide
    | false =>
        intro hi
        simp only [write, hn, h, Bool.false_eq_true, if_false] at hi
        obtain hi | hi := List.mem_append.mp (String.toList_append ▸ hi)
        · revert hi
          cases (Binary.ofBits x.toBits).negative <;> decide
        · obtain digit | dot := numerals_writeDigits _ _ hi
          · exact absurd digit (by decide)
          · exact absurd dot (by decide)
  intro hmem
  simp only [infinities, List.mem_cons, List.not_mem_nil, or_false] at hmem
  obtain htext | htext := hmem
  · exact letter (htext ▸ by decide)
  · exact letter (htext ▸ by decide)

/-- A message writes a number as an infinity exactly if it is one. -/
theorem contains_infinities (x : Float) : infinities.contains (write .message x) = x.isInf := by
  cases h : x.isInf with
  | true => exact List.contains_iff_mem.mpr (write_of_isInf h)
  | false =>
      rw [← Bool.not_eq_true, List.contains_iff_mem]
      exact write_of_not_isInf h

end EntryForm.Decimal
