import Mathlib.Data.String.Basic

/-!
# Proofs — Text — bytes

Texts compare as their bytes do: by code points, and so by the bytes that spell them.

A character has a first byte, which tells how many follow, and each of the others has six bits of
its code point.

* `utf8EncodeChar_eq`: the bytes of a character, as a first one (`lead`) and what trails it
  (`trail`).
* `utf8EncodeChar_lt`: of two characters, the lesser one has the lesser bytes, whatever follows.
* `bytes_lt_of_lt`, `bytes_lt_iff`: so it is with texts.
-/

namespace EntryForm.Text

/-- The bytes of a text. -/
def bytes (s : String) : List UInt8 := s.toUTF8.data.toList

/-- The bytes of a text are those of its characters, one after the other. -/
theorem bytes_eq_flatMap (s : String) : bytes s = s.toList.flatMap String.utf8EncodeChar := by
  rw [bytes, String.toUTF8_eq_toByteArray]
  conv => lhs; rw [← String.ofList_toList (s := s)]
  exact List.toList_data_toByteArray

/-- A byte that is less, and then nothing else matters. -/
theorem cons_byte_lt {a b : Nat} {x y : List UInt8} (hb : b < 256) (h : a < b) :
    UInt8.ofNat a :: x < UInt8.ofNat b :: y := by
  refine List.cons_lt_cons_iff.mpr (.inl (UInt8.lt_iff_toNat_lt.mpr ?_))
  rw [UInt8.toNat_ofNat', UInt8.toNat_ofNat']
  omega

/-- The last `k` bytes of a character of more bytes. -/
def trail : Nat → Nat → List UInt8
  | 0, _ => []
  | k + 1, n => trail k (n / 64) ++ [UInt8.ofNat (n % 64 + 128)]

/-- Where the first bytes are the same, those that follow compare as the code points do. -/
theorem trail_lt {k m n : Nat} (same : m / 64 ^ k = n / 64 ^ k) (lt : m < n) (x y : List UInt8) :
    trail k m ++ x < trail k n ++ y := by
  induction k generalizing m n x y with
  | zero =>
      rw [Nat.pow_zero, Nat.div_one, Nat.div_one] at same
      omega
  | succ k ih =>
      rw [trail, trail, List.append_assoc, List.append_assoc]
      rw [Nat.pow_succ', ← Nat.div_div_eq_div_mul, ← Nat.div_div_eq_div_mul] at same
      obtain before | last := Nat.lt_or_eq_of_le (Nat.div_le_div_right (c := 64) (Nat.le_of_lt lt))
      · exact ih same before _ _
      · rw [last]
        exact List.append_left_lt (cons_byte_lt (by omega) (by omega))

/-- The number of bytes behind the first one of the character with a code point. -/
def trailing (n : Nat) : Nat :=
  if n ≤ 127 then 0 else if n ≤ 2047 then 1 else if n ≤ 65535 then 2 else 3

/-- The mark of a first byte that `k` bytes follow. -/
def mark : Nat → Nat
  | 0 => 0
  | 1 => 192
  | 2 => 224
  | _ => 240

/-- The first byte of the character with a code point. -/
def lead (n : Nat) : Nat := n / 64 ^ trailing n + mark (trailing n)

/-- Code points end before this number. -/
theorem lt_of_char (c : Char) : c.val.toNat < 1114112 := by
  have valid := c.valid
  simp only [UInt32.isValidChar, Nat.isValidChar] at valid
  omega

/-- A character is its first byte and those behind it. -/
theorem utf8EncodeChar_eq (c : Char) : String.utf8EncodeChar c =
    UInt8.ofNat (lead c.val.toNat) :: trail (trailing c.val.toNat) c.val.toNat := by
  have bound := lt_of_char c
  unfold String.utf8EncodeChar lead trailing
  generalize c.val.toNat = n at *
  dsimp only
  split_ifs
  · simp only [mark, trail, Nat.reducePow, Nat.div_one, Nat.add_zero]
  · rw [Nat.mod_eq_of_lt (by omega : n / 64 < 32)]
    simp only [mark, trail, Nat.reducePow, List.nil_append]
  · rw [Nat.mod_eq_of_lt (by omega : n / 4096 < 16)]
    simp only [mark, trail, Nat.reducePow, List.nil_append, List.cons_append]
  · rw [Nat.mod_eq_of_lt (by omega : n / 262144 < 8)]
    simp only [mark, trail, Nat.reducePow, List.nil_append, List.cons_append,
      Nat.div_div_eq_div_mul, Nat.reduceMul]

/-- The first byte of a character is a byte. -/
theorem lead_lt {n : Nat} (h : n < 1114112) : lead n < 256 := by
  unfold lead trailing
  split_ifs <;> simp only [mark, Nat.reducePow] <;> omega

/-- A character of fewer bytes has a lesser first one. -/
theorem lead_lt_lead {m n : Nat} (lt : m < n) (h : trailing m ≠ trailing n) : lead m < lead n := by
  revert h
  unfold lead trailing
  split_ifs <;> simp only [mark, Nat.reducePow] <;> omega

/-- Of two characters, the lesser one has the lesser bytes, whatever follows. -/
theorem utf8EncodeChar_lt {c d : Char} (h : c < d) (x y : List UInt8) :
    String.utf8EncodeChar c ++ x < String.utf8EncodeChar d ++ y := by
  have lt : c.val.toNat < d.val.toNat := h
  have bound := lead_lt (lt_of_char d)
  rw [utf8EncodeChar_eq, utf8EncodeChar_eq, List.cons_append, List.cons_append]
  generalize c.val.toNat = m at *
  generalize d.val.toNat = n at *
  by_cases alike : trailing m = trailing n
  · rw [lead] at bound
    rw [lead, lead, alike]
    obtain before | same := Nat.lt_or_eq_of_le
      (Nat.div_le_div_right (c := 64 ^ trailing n) (Nat.le_of_lt lt))
    · exact cons_byte_lt bound (Nat.add_lt_add_right before _)
    · rw [same]
      exact List.cons_lt_cons_iff.mpr (.inr ⟨rfl, trail_lt same lt x y⟩)
  · exact cons_byte_lt bound (lead_lt_lead lt alike)

/-- The bytes of characters compare as the characters do. -/
theorem flatMap_utf8EncodeChar_lt {cs ds : List Char} (h : cs < ds) :
    cs.flatMap String.utf8EncodeChar < ds.flatMap String.utf8EncodeChar := by
  induction ds generalizing cs with
  | nil => exact absurd h (List.not_lt_nil _)
  | cons d ds ih =>
      rw [List.flatMap_cons]
      cases cs with
      | nil =>
          rw [utf8EncodeChar_eq]
          exact List.nil_lt_cons _ _
      | cons c cs =>
          rw [List.flatMap_cons]
          obtain before | ⟨rfl, behind⟩ := List.cons_lt_cons_iff.mp h
          · exact utf8EncodeChar_lt before _ _
          · exact List.append_left_lt (ih behind)

/-- Texts compare as their bytes do. -/
theorem bytes_lt_of_lt {s t : String} (h : s < t) : bytes s < bytes t := by
  rw [bytes_eq_flatMap, bytes_eq_flatMap]
  exact flatMap_utf8EncodeChar_lt (String.lt_iff_toList_lt.mp h)

/-- Bytes compare as texts do. -/
theorem bytes_lt_iff {s t : String} : bytes s < bytes t ↔ s < t := by
  refine ⟨fun h => ?_, bytes_lt_of_lt⟩
  rcases lt_trichotomy s t with lt | rfl | gt
  · exact lt
  · exact absurd h (List.lt_irrefl _)
  · exact absurd h (List.lt_asymm (bytes_lt_of_lt gt))

end EntryForm.Text
