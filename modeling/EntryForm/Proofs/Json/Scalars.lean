import EntryForm.Json.Printer
import EntryForm.Proofs.Decimal.Word
import EntryForm.Proofs.Json.Fed
import EntryForm.Proofs.Text.Count

/-!
# Proofs — Json — scalars are read as they were printed

A reader that stands before the text of a scalar gives the scalar and leaves what follows.

* `Leaves r made rest`: the reading `r` leaves `rest`, and gives what is made of the cursor there.
  `Reaches` says so of a reading that gives a value, `Arrives` of a step that gives nothing.
* `readString_printed`: a string is read, whatever follows it.
* `IsNumber cs n`: the characters are a number as it is written.  What follows does not change it,
  if it ends the number (`IsNumber.read`).
* `isNumber_int`, `isNumber_float`: the texts of integers of 64 bits are numbers, and so is that of
  a float that is read back from it (`Returns`).
-/

namespace EntryForm.Json

open Wire Cursor

variable {α β : Type} {k k' : Cursor} {tail : List Char}

/-! ### What a reading leaves -/

/-- The reading comes to an end with the rest of the text left, and gives what is made of the
cursor there. -/
def Leaves (r : Except Error α) (made : Cursor → α) (rest : List Char) : Prop :=
  ∃ k, r = .ok (made k) ∧ k.rest = rest

/-- The reading gives the value and leaves the rest of the text. -/
abbrev Reaches (r : Except Error (α × Cursor)) (x : α) (rest : List Char) : Prop :=
  Leaves r (x, ·) rest

/-- The step leaves the rest of the text. -/
abbrev Arrives (r : Except Error Cursor) (rest : List Char) : Prop := Leaves r id rest

/-- A reading that is done leaves what is left. -/
theorem reaches_ok {x : α} (h : k.rest = tail) : Reaches (.ok (x, k)) x tail := ⟨k, rfl, h⟩

/-- A reading goes on where the one before has left the text. -/
theorem Leaves.bind {r : Except Error α} {made : Cursor → α} {left : List Char}
    (h : Leaves r made left) {f : α → Except Error β} {result : Cursor → β}
    (next : ∀ k, k.rest = left → Leaves (f (made k)) result tail) :
    Leaves (r >>= f) result tail := by
  obtain ⟨k, rfl, hk⟩ := h
  exact next k hk

/-- Behind a character the rest follows. -/
theorem rest_next {c : Char} {rest : List Char} (hk : k.rest = c :: rest) : k.next.rest = rest := by
  rw [next, hk]
  exact rest_past k c rest

/-! ### Words and strings -/

/-- A word is read to its end. -/
theorem readWord_printed {ws : List Char} (hk : k.rest = ws ++ tail) :
    Arrives (readWord ws k) tail := by
  induction ws generalizing k with
  | nil => exact ⟨k, rfl, hk⟩
  | cons w ws ih =>
      rw [readWord, hk]
      dsimp only [List.cons_append]
      rw [if_pos rfl]
      exact ih (rest_next hk)

/-- A letter behind a backslash is read as what it stands for. -/
theorem readEscape_letter {letter c : Char} (hu : letter ≠ 'u') (stands : escaped? letter = some c)
    (hk : k.rest = letter :: tail) : Reaches (readEscape k) c tail := by
  rw [readEscape, hk]
  simp only [stands]
  exact reaches_ok (rest_next hk)

/-- The two digits that the number of a control character is written with. -/
theorem hexDigits_control : ∀ n < 0x20,
    (if n < 16 then ['0'] else []) ++ Nat.toDigits 16 n =
      [Nat.digitChar (n / 16), Nat.digitChar (n % 16)] := by
  decide

/-- A digit is read back as its number. -/
theorem hexValue?_digitChar : ∀ n < 16, hexValue? (Nat.digitChar n) = some n := by decide

/-- A control character is read back from its number. -/
theorem readEscape_control {c : Char} (h : c.toNat < 0x20)
    (hk : k.rest = 'u' :: '0' :: '0' :: Nat.digitChar (c.toNat / 16) ::
      Nat.digitChar (c.toNat % 16) :: tail) : Reaches (readEscape k) c tail := by
  have high := hexValue?_digitChar (c.toNat / 16) (by omega)
  have low := hexValue?_digitChar (c.toNat % 16) (Nat.mod_lt _ (by decide))
  have zero : hexValue? '0' = some 0 := rfl
  have value : ((0 * 16 + 0) * 16 + c.toNat / 16) * 16 + c.toNat % 16 = c.toNat := by omega
  have below : ¬ (0xDC00 ≤ c.toNat ∧ c.toNat ≤ 0xDFFF) := by omega
  have below' : ¬ (0xD800 ≤ c.toNat ∧ c.toNat ≤ 0xDBFF) := by omega
  rw [readEscape, hk]
  dsimp only
  rw [readHex, rest_next hk]
  dsimp only
  rw [zero, high, low]
  simp only [bind, Except.bind, value, if_neg below, if_neg below', Char.ofNat_toNat]
  exact reaches_ok rfl

/-- A character in a string stands as it is, or is read back from what follows a backslash. -/
theorem escapeChar_cases (c : Char) :
    (∃ more, escapeChar c = '\\' :: more ∧
      ∀ k tail, k.rest = more ++ tail → Reaches (readEscape k) c tail) ∨
    (escapeChar c = [c] ∧ c ≠ '"' ∧ c ≠ '\\' ∧ 0x20 ≤ c.toNat) := by
  have letter {a d : Char} (hu : a ≠ 'u') (stands : escaped? a = some d) :
      ∀ (k : Cursor) tail, k.rest = [a] ++ tail → Reaches (readEscape k) d tail :=
    fun _ _ hk => readEscape_letter hu stands hk
  have numbered {d : Char} {n : Nat} (h : c.toNat = n) (hd : Char.ofNat n = d) : c = d := by
    rw [← hd, ← h, Char.ofNat_toNat]
  unfold escapeChar
  by_cases quote : c = '"'
  · obtain rfl := quote
    exact .inl ⟨['"'], rfl, letter (by decide) rfl⟩
  by_cases slash : c = '\\'
  · obtain rfl := slash
    exact .inl ⟨['\\'], rfl, letter (by decide) rfl⟩
  by_cases feed : c = '\n'
  · obtain rfl := feed
    exact .inl ⟨['n'], rfl, letter (by decide) rfl⟩
  by_cases back : c = '\r'
  · obtain rfl := back
    exact .inl ⟨['r'], rfl, letter (by decide) rfl⟩
  by_cases tab : c = '\t'
  · obtain rfl := tab
    exact .inl ⟨['t'], rfl, letter (by decide) rfl⟩
  by_cases eight : c.toNat = 8
  · obtain rfl := numbered eight rfl
    exact .inl ⟨['b'], rfl, letter (by decide) rfl⟩
  by_cases twelve : c.toNat = 12
  · obtain rfl := numbered twelve rfl
    exact .inl ⟨['f'], rfl, letter (by decide) rfl⟩
  by_cases control : c.toNat < 0x20
  · refine .inl ⟨'u' :: '0' :: '0' :: [Nat.digitChar (c.toNat / 16), Nat.digitChar (c.toNat % 16)],
      ?_, fun k tail hk => readEscape_control control hk⟩
    simp [quote, slash, feed, back, tab, eight, twelve, control]
    exact hexDigits_control _ control
  · exact .inr ⟨by simp [quote, slash, feed, back, tab, eight, twelve, control], quote, slash,
      Nat.le_of_not_lt control⟩

/-- The characters of a string are read up to the quote that ends it. -/
theorem readStringFrom_printed {cs acc : List Char} {fuel : Nat} (hf : cs.length < fuel)
    (hk : k.rest = cs.flatMap escapeChar ++ '"' :: tail) :
    Reaches (readStringFrom fuel acc k) (String.ofList (acc.reverse ++ cs)) tail := by
  induction cs generalizing acc fuel k with
  | nil =>
      obtain ⟨fuel, rfl⟩ := Nat.exists_eq_add_of_lt hf
      rw [readStringFrom, hk, List.append_nil]
      exact reaches_ok (rest_next hk)
  | cons c cs ih =>
      obtain ⟨fuel, rfl⟩ : ∃ n, fuel = n + 1 := ⟨fuel - 1, by simp at hf; omega⟩
      have hf : cs.length < fuel := by simpa using hf
      rw [List.flatMap_cons, List.append_assoc] at hk
      have same : acc.reverse ++ c :: cs = (c :: acc).reverse ++ cs := by simp
      rw [readStringFrom, same]
      rcases escapeChar_cases c with ⟨more, hc, reads⟩ | ⟨hc, quote, slash, visible⟩
      · rw [hc] at hk
        rw [hk]
        exact (reads _ _ (rest_next hk)).bind fun k hk => ih hf hk
      · rw [hc] at hk
        rw [hk]
        simp only [List.cons_append, List.nil_append, if_neg (Nat.not_lt.mpr visible)]
        exact ih hf (rest_next hk)

/-- A string is read up to its quote, whatever follows. -/
theorem readString_printed {s : String}
    (hk : k.rest = s.toList.flatMap escapeChar ++ '"' :: tail) : Reaches (readString k) s tail := by
  have long : s.toList.length < k.rest.length + 1 := by
    have each (c : Char) : 1 ≤ (escapeChar c).length := by
      rcases escapeChar_cases c with ⟨more, hc, -⟩ | ⟨hc, -⟩ <;> simp [hc]
    have all : ∀ cs : List Char, cs.length ≤ (cs.flatMap escapeChar).length := fun cs => by
      induction cs with
      | nil => exact Nat.le_refl 0
      | cons c cs ih =>
          rw [List.flatMap_cons, List.length_append, List.length_cons]
          have := each c
          omega
    rw [hk, List.length_append]
    have := all s.toList
    omega
  have read := @readStringFrom_printed k tail s.toList [] _ long hk
  rwa [List.reverse_nil, List.nil_append, String.ofList_toList] at read

/-! ### Numbers -/

/-- Reads a number with its sign. -/
def readSigned (k : Cursor) : Except Error (Number × Cursor) :=
  match k.rest with
  | '-' :: _ => readNumber true k.next
  | _ => readNumber false k

/-- A number with a sign ends where the text does, or before what is no part of a number. -/
theorem readSigned_carries (h : Ends tail) {line : Nat → Nat} {column : Nat} :
    Carries (placed tail line column) (readSigned k) (readSigned (k.placed tail line column)) := by
  rw [readSigned, readSigned, rest_placed]
  cases hk : k.rest with
  | nil =>
      have none : readNumber false k = k.fail .endInValue := by rw [readNumber, hk]
      rw [none]
      exact carries_fail
  | cons c rest =>
      by_cases minus : c = '-'
      · subst minus
        rw [next_placed hk (by decide)]
        exact readNumber_carries h
      · simp only [List.cons_append, List.cons.injEq, minus, false_and, IsEmpty.forall_iff,
          implies_true]
        exact readNumber_carries h

/-- The characters are a number as it is written: read by themselves they give it. -/
structure IsNumber (cs : List Char) (n : Number) : Prop where
  begins : ∃ c rest, cs = c :: rest ∧ (c = '-' ∨ c.isDigit = true)
  alone : Reaches (readSigned ⟨cs, 1, 0⟩) n []

/-- A number is read wherever it stands, if what follows ends it. -/
theorem IsNumber.read {cs : List Char} {n : Number} (h : IsNumber cs n) (ends : Ends tail)
    (hk : k.rest = cs ++ tail) : Reaches (readSigned k) n tail := by
  obtain ⟨j, read, left⟩ := h.alone
  have same : k = placed tail (fun _ => k.line) k.column ⟨cs, 1, 0⟩ := by
    rw [placed, Nat.zero_add, ← hk]
  rw [same]
  refine ⟨_, readSigned_carries ends _ read, ?_⟩
  rw [move_cursor, rest_placed, left, List.nil_append]

/-- Digits are taken as long as their number fits. -/
theorem takeDigits_all {value count : Nat} {cs : List Char} (digits : ∀ c ∈ cs, c.isDigit = true)
    (small : Nat.ofDigitChars 10 cs value < Nat.pow 2 64) :
    takeDigits value count cs = (Nat.ofDigitChars 10 cs value, count + cs.length, []) := by
  induction cs generalizing value count with
  | nil => rfl
  | cons c cs ih =>
      rw [Nat.ofDigitChars_cons] at small ⊢
      have zero : '0'.toNat = 48 := rfl
      rw [Nat.mul_comm 10, zero] at small ⊢
      have fits : value * 10 + (c.toNat - 48) < Nat.pow 2 64 :=
        Nat.lt_of_le_of_lt (Text.le_ofDigitChars cs _) small
      have rest : ∀ d ∈ cs, d.isDigit = true := fun d hd => digits d (List.mem_cons_of_mem c hd)
      rw [takeDigits, if_pos (digits c List.mem_cons_self)]
      dsimp only
      rw [if_pos fits, ih rest small, List.length_cons, Nat.add_assoc, Nat.add_comm 1]

/-- A positive number is written without a zero in front. -/
theorem head?_toDigits {n : Nat} (h : 0 < n) : (Nat.toDigits 10 n).head? ≠ some '0' := by
  induction n using Nat.strongRecOn with
  | ind n ih =>
      rw [Nat.toDigits_eq_if (by decide)]
      split
      · rw [List.head?_cons, ne_eq, Option.some.injEq, Nat.digitChar_eq_zero]
        exact Nat.ne_of_gt h
      · rw [List.head?_append_of_ne_nil _ Nat.toDigits_ne_nil]
        exact ih (n / 10) (by omega) (by omega)

/-- The digits of a number are read as the whole part of one, and nothing follows it. -/
theorem readNumber_toDigits {n : Nat} (small : n < Nat.pow 2 64) (negative : Bool)
    (line column : Nat) : ∃ j : Cursor, j.rest = [] ∧
      readNumber negative ⟨Nat.toDigits 10 n, line, column⟩ = readTail negative n j := by
  obtain rfl | positive := Nat.eq_zero_or_pos n
  · exact ⟨⟨[], line, column + 1⟩, rfl, rfl⟩
  · have digits : ∀ c ∈ Nat.toDigits 10 n, c.isDigit = true := fun c hc =>
      Nat.isDigit_of_mem_toDigits (by decide) (by decide) hc
    have first := head?_toDigits positive
    have value : Nat.ofDigitChars 10 (Nat.toDigits 10 n) 0 = n := Nat.ofDigitChars_ten_toDigits
    have taken := @takeDigits_all 0 0 _ digits (value.symm ▸ small)
    rw [value] at taken
    obtain ⟨c, cs, hcs⟩ := List.exists_cons_of_ne_nil (Nat.toDigits_ne_nil (n := n) (b := 10))
    rw [hcs] at digits first taken ⊢
    have zero : c ≠ '0' := fun same => first (congrArg some same)
    refine ⟨Cursor.pastDigits ⟨c :: cs, line, column⟩ (0 + (c :: cs).length) [], rfl, ?_⟩
    rw [readNumber]
    simp only [digits c List.mem_cons_self, taken]
    rfl

/-- An integer of 64 bits is a number. -/
theorem isNumber_int {n : Int} (low : -Int.pow 2 63 ≤ n) (high : n < Int.pow 2 64) :
    IsNumber (toString n).toList (.int n) := by
  cases n with
  | ofNat n =>
      have small : n < Nat.pow 2 64 := Int.ofNat_lt.mp high
      have text : (toString (Int.ofNat n)).toList = Nat.toDigits 10 n := Nat.toList_repr
      obtain ⟨c, cs, hcs⟩ := List.exists_cons_of_ne_nil (Nat.toDigits_ne_nil (n := n) (b := 10))
      have digit : c.isDigit = true :=
        Nat.isDigit_of_mem_toDigits (b := 10) (n := n) (by decide) (by decide)
          (hcs ▸ List.mem_cons_self)
      obtain ⟨j, hj, read⟩ := readNumber_toDigits small false 1 0
      rw [text]
      refine ⟨⟨c, cs, hcs, .inr digit⟩, ?_⟩
      have unsigned : readSigned ⟨Nat.toDigits 10 n, 1, 0⟩ =
          readNumber false ⟨Nat.toDigits 10 n, 1, 0⟩ := by
        have minus : c ≠ '-' := fun same => by rw [same] at digit; cases digit
        rw [readSigned, hcs]
        simp only [List.cons.injEq, minus, false_and, IsEmpty.forall_iff, implies_true]
      rw [unsigned, read, readTail, hj]
      exact reaches_ok hj
  | negSucc n =>
      have atMost : n + 1 ≤ Nat.pow 2 63 :=
        Int.ofNat_le.mp (Int.neg_le_neg_iff.mp low)
      have small : n + 1 < Nat.pow 2 64 := Nat.lt_of_le_of_lt atMost (by decide)
      have text : (toString (Int.negSucc n)).toList = '-' :: Nat.toDigits 10 (n + 1) := by
        show ("-" ++ Nat.repr (n + 1)).toList = _
        rw [String.toList_append, Nat.toList_repr]
        rfl
      obtain ⟨j, hj, read⟩ := readNumber_toDigits small true 1 1
      rw [text]
      refine ⟨⟨'-', _, rfl, .inl rfl⟩, ?_⟩
      show Reaches (readNumber true ⟨Nat.toDigits 10 (n + 1), 1, 1⟩) _ _
      have exact_ : ¬ (n + 1 = 0 ∨ Nat.pow 2 63 < n + 1) := by omega
      rw [read, readTail, hj]
      simp only [Bool.not_true, Bool.false_eq_true, if_false, if_neg exact_]
      exact reaches_ok hj

/-! ### Numbers as values -/

section Values

variable {c : Char} {rest : List Char}

/-- Before a visible character there are no blanks. -/
theorem skipBlanks_visible (hk : k.rest = c :: rest) (hc : isBlank c = false) :
    k.skipBlanks = k := by
  rw [skipBlanks, hk, dropWhile, hc]
  rfl

/-- A number does not begin with a blank. -/
theorem isBlank_of_begins (hc : c = '-' ∨ c.isDigit = true) : isBlank c = false := by
  obtain rfl | digit := hc
  · rfl
  · by_contra blank
    simp only [isBlank, Bool.not_eq_false, Bool.or_eq_true, beq_iff_eq] at blank
    obtain ((rfl | rfl) | rfl) | rfl := blank <;> cases digit

/-- Where a number begins, one is read. -/
theorem readAny_signed {fuel depth : Nat} (hk : k.skipBlanks.rest = c :: rest)
    (hc : c = '-' ∨ c.isDigit = true) :
    readAny (fuel + 1) depth k = readSigned k.skipBlanks >>= fun x => .ok (x.1.toJson, x.2) := by
  rw [readAny, readSigned, hk]
  obtain rfl | digit := hc
  · rfl
  · have other (d : Char) (hd : d.isDigit = false) : c ≠ d := fun same => by
      rw [same, hd] at digit
      cases digit
    simp only [List.cons.injEq, other 'n' rfl, other 't' rfl, other 'f' rfl, other '-' rfl,
      other '"' rfl, other '[' rfl, other '{' rfl, false_and, IsEmpty.forall_iff, implies_true,
      digit, if_true]

/-- What is read as a floating point number begins as a number does. -/
theorem begins_of_readAny {fuel depth : Nat} {x : Float} (hk : k.skipBlanks.rest = c :: rest)
    (h : readAny (fuel + 1) depth k = .ok (.float x, k')) : c = '-' ∨ c.isDigit = true := by
  by_contra other
  rw [readAny, hk] at h
  dsimp only at h
  -- a word, a string or a bracket leads to another value, and the rest to a fault
  split at h
  all_goals simp_all [bind_eq_ok, Cursor.failPeeked]

/-- The floating point number is read back from its text. -/
def Returns (x : Float) : Prop := Reaches (readAny 1 1 (.start (writeFloat x))) (.float x) []

/-- A float that is read back from its text is a number: what is read does not depend on the text
behind it. -/
theorem isNumber_float {x : Float} (h : Returns x) : IsNumber (writeFloat x).toList (.float x) := by
  have word : Text.IsWord (writeFloat x) := by
    rw [writeFloat]
    split
    · exact Decimal.write_isWord (by decide) (by decide) x
    · decide
  obtain ⟨c, rest, hc⟩ := List.exists_cons_of_ne_nil word.ne_nil
  have visible : isBlank c = false := by
    have solid := word.solid c (hc ▸ List.mem_cons_self)
    by_contra blank
    simp only [isBlank, Bool.not_eq_false, Bool.or_eq_true, beq_iff_eq] at blank
    obtain ((rfl | rfl) | rfl) | rfl := blank <;> cases solid
  have start : (Cursor.start (writeFloat x)).skipBlanks = .start (writeFloat x) :=
    skipBlanks_visible hc visible
  have first : (Cursor.start (writeFloat x)).skipBlanks.rest = c :: rest := start.symm ▸ hc
  obtain ⟨k, read, left⟩ := h
  have begins := begins_of_readAny first read
  rw [readAny_signed first begins, start] at read
  obtain ⟨⟨n, j⟩, signed, result⟩ := bind_eq_ok.mp read
  obtain ⟨same, rfl⟩ := Prod.mk.inj (Except.ok.inj result)
  refine ⟨⟨c, rest, hc, begins⟩, ?_⟩
  cases n with
  | int n => cases same
  | float y =>
      obtain rfl := Json.float.inj same
      exact ⟨_, signed, left⟩

end Values

end EntryForm.Json
