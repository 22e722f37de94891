import EntryForm.Proofs.Wire.Read

/-!
# Proofs — Json — scalars with more text behind them

* `Cursor.placed tail line column`: the cursor in another line and column, with `tail` behind the
  text.  `Cursor.fed`: in the same place, with a line feed behind the text.
* `Carries f r r'`: if `r` is a result, then `r'` is the same with its cursor moved by `f`.  It goes
  through `>>=` and conditions, so that a reader needs no more than the lemmas of what it calls.
  `Feeds` says it of the line feed.

Words and strings end before the line feed.  A number may end with the text.  A comma or a line feed
is no part of a number, so before one the number ends as well (`Ends`), wherever it stands.
-/

namespace EntryForm.Json

open Wire

namespace Cursor

/-- The cursor in another line and so many columns further on, with `tail` behind the text. -/
def placed (tail : List Char) (line : Nat → Nat) (column : Nat) (k : Cursor) : Cursor :=
  ⟨k.rest ++ tail, line k.line, k.column + column⟩

/-- The cursor at the same place of the text with a line feed behind it. -/
def fed (k : Cursor) : Cursor := { k with rest := k.rest ++ ['\n'] }

@[simp] theorem rest_fed (k : Cursor) : k.fed.rest = k.rest ++ ['\n'] := rfl

theorem rest_past (k : Cursor) (c : Char) (rest : List Char) : (k.past c rest).rest = rest := by
  unfold past
  split <;> rfl

/-- Moving past a character that does not end the text, the line feed stays behind it. -/
theorem past_fed (k : Cursor) (c : Char) (rest : List Char) :
    k.fed.past c (rest ++ ['\n']) = (k.past c rest).fed := by
  unfold past
  split <;> rfl

/-- Going one character on, the line feed stays behind the text. -/
theorem next_fed {k : Cursor} {c : Char} {rest : List Char} (hk : k.rest = c :: rest) :
    k.fed.next = k.next.fed := by
  rw [next, next, rest_fed, hk]
  exact past_fed k c rest

/-- A cursor that goes on while characters hold is left with the others. -/
theorem rest_dropWhile {p : Char → Bool} {cs : List Char} {k : Cursor} (hk : k.rest = cs) :
    (dropWhile p cs k).rest = cs.dropWhile p := by
  induction cs generalizing k with
  | nil => exact hk
  | cons c cs ih =>
      rw [dropWhile, List.dropWhile_cons]
      split
      · exact ih (rest_past k c cs)
      · exact hk

/-- Characters are dropped alike if the line feed is not dropped with them. -/
theorem dropWhile_fed {p : Char → Bool} {cs : List Char} {k : Cursor} (hk : k.rest = cs)
    (h : (dropWhile p cs k).rest ≠ []) :
    dropWhile p (cs ++ ['\n']) k.fed = (dropWhile p cs k).fed := by
  induction cs generalizing k with
  | nil => exact absurd hk h
  | cons c cs ih =>
      rw [dropWhile] at h
      rw [List.cons_append, dropWhile, dropWhile]
      split
      · next hc =>
          rw [if_pos hc] at h
          rw [past_fed]
          exact ih (rest_past k c cs) h
      · rfl

/-- After blanks the text goes on with its first visible character. -/
theorem rest_skipBlanks (k : Cursor) : k.skipBlanks.rest = k.rest.dropWhile isBlank :=
  rest_dropWhile rfl

/-- Blanks end before a visible character, and so before the line feed. -/
theorem skipBlanks_fed {k : Cursor} {c : Char} {rest : List Char}
    (h : k.skipBlanks.rest = c :: rest) : k.fed.skipBlanks = k.skipBlanks.fed :=
  dropWhile_fed rfl fun none => by rw [skipBlanks, none] at h; cases h

/-! ### Other places -/

variable {tail : List Char} {line : Nat → Nat} {column : Nat}

theorem fed_eq_placed : fed = placed ['\n'] id 0 := rfl

@[simp] theorem rest_placed (k : Cursor) :
    (k.placed tail line column).rest = k.rest ++ tail :=
  rfl

/-- Moving past a character in the line, the cursor stays as far from the other place. -/
theorem past_placed {c : Char} (hc : c ≠ '\n') (k : Cursor) (rest : List Char) :
    (k.placed tail line column).past c (rest ++ tail) =
      (k.past c rest).placed tail line column := by
  rw [past, past, if_neg hc, if_neg hc, placed, placed, Nat.add_right_comm k.column]

/-- Going one character on in the line, the cursor stays as far from the other place. -/
theorem next_placed {k : Cursor} {c : Char} {rest : List Char} (hk : k.rest = c :: rest)
    (hc : c ≠ '\n') : (k.placed tail line column).next = k.next.placed tail line column := by
  rw [next, next, rest_placed, hk]
  exact past_placed hc k rest

/-- The text ends, or goes on with what is no part of a number. -/
def Ends (tail : List Char) : Prop := ∀ c ∈ tail.head?, c = ',' ∨ c = '\n'

/-- Digits end where a number does. -/
theorem Ends.isDigit_eq_false (h : Ends tail) : ∀ c ∈ tail.head?, c.isDigit = false := by
  intro c hc
  obtain rfl | rfl := h c hc
  · rfl
  · rfl

theorem dropDigits_placed (h : Ends tail) {cs : List Char} {k : Cursor} (hk : k.rest = cs) :
    dropWhile Char.isDigit (cs ++ tail) (k.placed tail line column) =
      (dropWhile Char.isDigit cs k).placed tail line column := by
  induction cs generalizing k with
  | nil =>
      cases tail with
      | nil => rfl
      | cons c rest => simp [dropWhile, h.isDigit_eq_false c rfl]
  | cons c cs ih =>
      rw [List.cons_append, dropWhile, dropWhile]
      split
      · next digit =>
          have hc : c ≠ '\n' := fun same => by rw [same] at digit; cases digit
          rw [past_placed hc]
          exact ih (rest_past k c cs)
      · rfl

/-- Digits end where a number does, wherever they stand. -/
theorem skipDigits_placed (h : Ends tail) (k : Cursor) :
    (k.placed tail line column).skipDigits = k.skipDigits.placed tail line column :=
  dropDigits_placed h rfl

/-- As many digits are counted in the other place. -/
theorem countDigits_placed (h : Ends tail) (k : Cursor) :
    (k.placed tail line column).countDigits =
      (k.countDigits.1, k.countDigits.2.placed tail line column) := by
  rw [countDigits, skipDigits_placed h]
  exact Prod.ext (Nat.add_sub_add_right _ _ _) rfl

/-- Beyond digits the cursor stays as far from the other place. -/
theorem pastDigits_placed (k : Cursor) (n : Nat) (rest : List Char) :
    (k.placed tail line column).pastDigits n (rest ++ tail) =
      (k.pastDigits n rest).placed tail line column := by
  rw [pastDigits, pastDigits, placed, placed, Nat.add_right_comm k.column]

theorem ends_lineFeed : Ends ['\n'] := fun _ hc => .inr (Option.some.inj hc).symm

/-- Digits end before the line feed. -/
theorem skipDigits_fed (k : Cursor) : k.fed.skipDigits = k.skipDigits.fed := by
  rw [fed_eq_placed]
  exact skipDigits_placed ends_lineFeed k

end Cursor

open Cursor

/-! ### Results -/

/-- A result of reading that holds the cursor reached. -/
class HasCursor (ρ : Type) where
  /-- The result with its cursor moved. -/
  move : (Cursor → Cursor) → ρ → ρ

instance : HasCursor Cursor := ⟨fun f k => f k⟩

theorem move_cursor (f : Cursor → Cursor) (k : Cursor) : HasCursor.move f k = f k := rfl

instance {α ρ : Type} [HasCursor ρ] : HasCursor (α × ρ) := ⟨fun f x => (x.1, HasCursor.move f x.2)⟩

/-- What has been read stays; the cursor behind it is moved. -/
theorem move_pair {α ρ : Type} [HasCursor ρ] (f : Cursor → Cursor) (a : α) (x : ρ) :
    HasCursor.move f (a, x) = (a, HasCursor.move f x) :=
  rfl

/-- If one is a result, the other is the same with its cursor moved. -/
def Carries {ρ : Type} [HasCursor ρ] (f : Cursor → Cursor) (r r' : Except Error ρ) : Prop :=
  ∀ x, r = .ok x → r' = .ok (HasCursor.move f x)

/-- If one is a result, the other is the same with a line feed behind the text. -/
abbrev Feeds {ρ : Type} [HasCursor ρ] (r r' : Except Error ρ) : Prop := Carries Cursor.fed r r'

section

variable {α ρ σ : Type} [HasCursor ρ] [HasCursor σ] {move : Cursor → Cursor}

/-- A result carries itself with its cursor moved. -/
theorem carries_ok {x : ρ} : Carries move (.ok x) (.ok (HasCursor.move move x)) := fun _ h =>
  congrArg (Except.ok ∘ HasCursor.move move) (Except.ok.inj h)

theorem carries_pair {a : α} {k : Cursor} : Carries move (.ok (a, k)) (.ok (a, move k)) :=
  carries_ok

/-- What fails carries anything. -/
theorem carries_fail {f : Fault} {k : Cursor} {r : Except Error ρ} : Carries move (k.fail f) r :=
  nofun

/-- A fault at a character not yet read is no result either. -/
theorem carries_failPeeked {f : Fault} {k : Cursor} {r : Except Error ρ} :
    Carries move (k.failPeeked f) r :=
  nofun

/-- What is read next may depend on what has been read. -/
theorem carries_bind_of {r r' : Except Error ρ} {f f' : ρ → Except Error σ}
    (h : Carries move r r')
    (hf : ∀ x, r = .ok x → Carries move (f x) (f' (HasCursor.move move x))) :
    Carries move (r >>= f) (r' >>= f') := by
  intro y hy
  obtain ⟨x, hx, hy⟩ := bind_eq_ok.mp hy
  exact bind_eq_ok.mpr ⟨_, h x hx, hf x hx y hy⟩

/-- What is read next is carried if both readings are. -/
theorem carries_bind {r r' : Except Error ρ} {f f' : ρ → Except Error σ} (h : Carries move r r')
    (hf : ∀ x, Carries move (f x) (f' (HasCursor.move move x))) :
    Carries move (r >>= f) (r' >>= f') :=
  carries_bind_of h fun x _ => hf x

/-- Both branches of a condition are carried if each is. -/
theorem carries_ite {p : Prop} [Decidable p] {a a' b b' : Except Error ρ} (ha : Carries move a a')
    (hb : Carries move b b') : Carries move (if p then a else b) (if p then a' else b') := by
  split
  · exact ha
  · exact hb

end

variable {fuel fuel' depth : Nat} {first : Bool} {k k' : Cursor} {c : Char} {rest : List Char}

/-! ### Words and strings -/

/-- A word is matched character by character, and the line feed is not one of them. -/
theorem readWord_feeds {ws : List Char} : Feeds (readWord ws k) (readWord ws k.fed) := by
  induction ws generalizing k with
  | nil => exact carries_ok
  | cons w ws ih =>
      rw [readWord, readWord, rest_fed]
      cases hk : k.rest with
      | nil => exact carries_fail
      | cons c rest =>
          rw [next_fed hk]
          exact carries_ite ih carries_failPeeked

/-- Four hexadecimal digits stand before the line feed. -/
theorem readHex_feeds : Feeds (readHex k) (readHex k.fed) := by
  rw [readHex, readHex]
  split
  · next a b c d rest hk =>
      rw [rest_fed, hk]
      dsimp only [List.cons_append]
      split
      · exact carries_pair
      · exact carries_fail
  · split
    · exact carries_fail
    · exact carries_fail

/-- The second half of a pair of surrogates stands before the line feed. -/
theorem readTrailing_feeds {high : Nat} :
    Feeds (readTrailing high k) (readTrailing high k.fed) := by
  rw [readTrailing, readTrailing]
  split
  · exact carries_fail
  · next rest hk =>
      rw [rest_fed, hk, next_fed hk]
      dsimp only [List.cons_append]
      split
      · exact carries_fail
      · next rest' hk' =>
          rw [rest_fed, hk', next_fed hk']
          exact carries_bind readHex_feeds fun x => carries_ite carries_fail carries_pair
      · exact carries_failPeeked
  · exact carries_failPeeked

/-- An escape stands before the line feed. -/
theorem readEscape_feeds : Feeds (readEscape k) (readEscape k.fed) := by
  rw [readEscape, readEscape]
  split
  · exact carries_fail
  · next rest hk =>
      rw [rest_fed, hk, next_fed hk]
      refine carries_bind readHex_feeds fun x => carries_ite carries_fail ?_
      exact carries_ite readTrailing_feeds carries_pair
  · next c rest other hk =>
      rw [rest_fed, hk, next_fed hk]
      simp only [List.cons_append]
      split
      · exact carries_pair
      · exact carries_failPeeked

/-- The characters of a string end at a quote, before the line feed; more fuel does no harm. -/
theorem readStringFrom_feeds (hf : fuel ≤ fuel') {acc : List Char} :
    Feeds (readStringFrom fuel acc k) (readStringFrom fuel' acc k.fed) := by
  induction fuel generalizing fuel' acc k with
  | zero => exact carries_fail
  | succ fuel ih =>
      obtain ⟨more, rfl⟩ := Nat.exists_eq_add_of_lt hf
      have more := Nat.le_add_right fuel more
      rw [readStringFrom, readStringFrom]
      split
      · exact carries_fail
      · next rest hk =>
          rw [rest_fed, hk, next_fed hk]
          exact carries_pair
      · next rest hk =>
          rw [rest_fed, hk, next_fed hk]
          exact carries_bind readEscape_feeds fun x => ih more
      · next c rest _ _ hk =>
          rw [rest_fed, hk, next_fed hk]
          simp only [List.cons_append]
          exact carries_ite carries_failPeeked (ih more)

/-- A string ends at its quote, before the line feed. -/
theorem readString_feeds : Feeds (readString k) (readString k.fed) := by
  refine readStringFrom_feeds ?_
  rw [rest_fed, List.length_append]
  exact Nat.add_le_add_right (Nat.le_add_right _ _) 1

/-- A string that is skipped ends at its quote as well. -/
theorem skipStringFrom_feeds (hf : fuel ≤ fuel') :
    Feeds (skipStringFrom fuel k) (skipStringFrom fuel' k.fed) := by
  induction fuel generalizing fuel' k with
  | zero => exact carries_fail
  | succ fuel ih =>
      obtain ⟨more, rfl⟩ := Nat.exists_eq_add_of_lt hf
      have more := Nat.le_add_right fuel more
      rw [skipStringFrom, skipStringFrom]
      split
      · exact carries_fail
      · next rest hk =>
          rw [rest_fed, hk, next_fed hk]
          exact carries_ok
      · next rest hk =>
          rw [rest_fed, hk, next_fed hk]
          dsimp only [List.cons_append]
          split
          · exact carries_fail
          · next rest' hk' =>
              rw [rest_fed, hk', next_fed hk']
              exact carries_bind readHex_feeds fun x => ih more
          · next c rest' _ hk' =>
              rw [rest_fed, hk', next_fed hk']
              simp only [List.cons_append]
              exact carries_ite (ih more) carries_failPeeked
      · next c rest _ _ hk =>
          rw [rest_fed, hk, next_fed hk]
          simp only [List.cons_append]
          exact carries_ite carries_fail (ih more)

theorem skipString_feeds : Feeds (skipString k) (skipString k.fed) := by
  refine skipStringFrom_feeds ?_
  rw [rest_fed, List.length_append]
  exact Nat.add_le_add_right (Nat.le_add_right _ _) 1

/-! ### Numbers -/

section Numbers

variable {negative up : Bool} {digits : Nat} {exponent : Int} {tail : List Char}
  {line : Nat → Nat} {column : Nat}

/-- Digits are taken up to where the number ends. -/
theorem takeDigits_append (h : Ends tail) (value count : Nat) (cs : List Char) :
    takeDigits value count (cs ++ tail) =
      ((takeDigits value count cs).1, (takeDigits value count cs).2.1,
        (takeDigits value count cs).2.2 ++ tail) := by
  induction cs generalizing value count with
  | nil =>
      cases tail with
      | nil => rfl
      | cons c rest => simp [takeDigits, h.isDigit_eq_false c rfl]
  | cons c cs ih =>
      rw [List.cons_append, takeDigits, takeDigits]
      grind

/-- An exponent is taken up to where the number ends. -/
theorem takeExponent_append (h : Ends tail) (value : Option Nat) (cs : List Char) :
    takeExponent value (cs ++ tail) =
      ((takeExponent value cs).1, (takeExponent value cs).2 ++ tail) := by
  induction cs generalizing value with
  | nil =>
      cases tail with
      | nil => cases value <;> rfl
      | cons c rest => cases value <;> simp [takeExponent, h.isDigit_eq_false c rfl]
  | cons c cs ih => cases value <;> grind [takeExponent]

/-- Whether digits and exponent make a number does not depend on where they stand. -/
theorem makeFloat_carries : Carries (placed tail line column)
    (makeFloat negative digits exponent k)
    (makeFloat negative digits exponent (k.placed tail line column)) := by
  rw [makeFloat, makeFloat]
  split
  · exact carries_fail
  · exact carries_pair

/-- Beyond the sign of an exponent, and whether there is no minus. -/
def afterSign (k : Cursor) : Bool × Cursor :=
  match k.rest with
  | '+' :: _ => (true, k.next)
  | '-' :: _ => (false, k.next)
  | _ => (true, k)

/-- A sign is not what a number ends before. -/
theorem afterSign_placed (h : Ends tail) (k : Cursor) :
    afterSign (k.placed tail line column) =
      ((afterSign k).1, (afterSign k).2.placed tail line column) := by
  rw [afterSign, afterSign, rest_placed]
  cases hk : k.rest with
  | nil =>
      cases tail with
      | nil => rfl
      | cons c rest =>
          obtain rfl | rfl := h c rfl
          · rfl
          · rfl
  | cons c rest =>
      by_cases plus : c = '+'
      · subst plus
        rw [next_placed hk (by decide)]
        rfl
      · by_cases minus : c = '-'
        · subst minus
          rw [next_placed hk (by decide)]
          rfl
        · simp only [List.cons_append, List.cons.injEq, plus, minus, false_and,
            IsEmpty.forall_iff, implies_true]

/-- Reads the digits of an exponent, after its sign. -/
def readMagnitude (negative : Bool) (digits : Nat) (exponent : Int) (up : Bool) (k : Cursor) :
    Except Error (Number × Cursor) :=
  match k.rest with
  | [] => k.fail .endInValue
  | c :: rest =>
      if !c.isDigit then k.failPeeked .invalidNumber
      else
        match takeExponent (some (c.toNat - 48)) rest with
        | (some e, left) =>
            makeFloat negative digits (if up then exponent + e else exponent - e)
              (k.pastDigits (k.rest.length - left.length) left)
        | (none, left) =>
            let k := k.pastDigits (k.rest.length - left.length) left
            if digits ≠ 0 ∧ up then k.fail .numberOutOfRange
            else .ok (.float (if negative then -0.0 else 0.0), k.skipDigits)

/-- An exponent is its sign and then its digits. -/
theorem readExponent_eq (negative : Bool) (digits : Nat) (exponent : Int) (k : Cursor) :
    readExponent negative digits exponent k =
      readMagnitude negative digits exponent (afterSign k.next).1 (afterSign k.next).2 :=
  rfl

/-- The digits of an exponent end where the number does. -/
theorem readMagnitude_carries (h : Ends tail) : Carries (placed tail line column)
    (readMagnitude negative digits exponent up k)
    (readMagnitude negative digits exponent up (k.placed tail line column)) := by
  rw [readMagnitude, readMagnitude, rest_placed]
  cases hk : k.rest with
  | nil => exact carries_fail
  | cons c rest =>
      dsimp only [List.cons_append]
      refine carries_ite carries_failPeeked ?_
      rw [takeExponent_append h]
      obtain ⟨value, left⟩ := takeExponent (some (c.toNat - 48)) rest
      have count : (c :: (rest ++ tail)).length - (left ++ tail).length =
          (c :: rest).length - left.length := by
        rw [← List.cons_append, List.length_append, List.length_append, Nat.add_sub_add_right]
      cases value with
      | some e =>
          dsimp only
          rw [count, pastDigits_placed]
          exact makeFloat_carries
      | none =>
          dsimp only
          rw [count, pastDigits_placed, skipDigits_placed h]
          exact carries_ite carries_fail carries_pair

/-- An exponent ends where the number does. -/
theorem readExponent_carries (h : Ends tail) (hk : k.rest = c :: rest) (hc : c ≠ '\n') :
    Carries (placed tail line column) (readExponent negative digits exponent k)
      (readExponent negative digits exponent (k.placed tail line column)) := by
  rw [readExponent_eq, readExponent_eq, next_placed hk hc, afterSign_placed h]
  exact readMagnitude_carries h

/-- Digits with an exponent or without one end where the number does. -/
theorem readScaled_carries (h : Ends tail) : Carries (placed tail line column)
    (readScaled negative digits exponent k)
    (readScaled negative digits exponent (k.placed tail line column)) := by
  rw [readScaled, readScaled, rest_placed]
  cases hk : k.rest with
  | nil =>
      cases tail with
      | nil => exact makeFloat_carries
      | cons c rest =>
          obtain rfl | rfl := h c rfl
          · exact makeFloat_carries
          · exact makeFloat_carries
  | cons c rest =>
      by_cases lower : c = 'e'
      · subst lower
        exact readExponent_carries h hk (by decide)
      · by_cases upper : c = 'E'
        · subst upper
          exact readExponent_carries h hk (by decide)
        · simp only [List.cons_append, List.cons.injEq, lower, upper, false_and,
            IsEmpty.forall_iff, implies_true]
          exact makeFloat_carries

/-- A fraction ends where the number does. -/
theorem readFraction_carries (h : Ends tail) (hk : k.rest = c :: rest) (hc : c ≠ '\n') :
    Carries (placed tail line column) (readFraction negative digits exponent k)
      (readFraction negative digits exponent (k.placed tail line column)) := by
  rw [readFraction, readFraction, next_placed hk hc, rest_placed, takeDigits_append h]
  obtain ⟨value, n, left⟩ := takeDigits digits 0 k.next.rest
  dsimp only
  rw [pastDigits_placed]
  cases left with
  | nil =>
      rw [List.nil_append]
      cases tail with
      | nil => exact carries_ite carries_failPeeked (readScaled_carries h)
      | cons d rest =>
          dsimp only
          rw [if_neg (Bool.eq_false_iff.mp (h.isDigit_eq_false d rfl))]
          exact carries_ite carries_failPeeked (readScaled_carries h)
  | cons d left =>
      dsimp only [List.cons_append]
      rw [skipDigits_placed h]
      exact carries_ite (readScaled_carries h)
        (carries_ite carries_failPeeked (readScaled_carries h))

/-- What follows the whole part of a number ends where the number does. -/
theorem readTail_carries (h : Ends tail) : Carries (placed tail line column)
    (readTail negative digits k) (readTail negative digits (k.placed tail line column)) := by
  rw [readTail, readTail, rest_placed]
  cases hk : k.rest with
  | nil =>
      cases tail with
      | nil => exact carries_ite carries_pair (carries_ite carries_pair carries_pair)
      | cons c rest =>
          obtain rfl | rfl := h c rfl
          · exact carries_ite carries_pair (carries_ite carries_pair carries_pair)
          · exact carries_ite carries_pair (carries_ite carries_pair carries_pair)
  | cons c rest =>
      by_cases point : c = '.'
      · subst point
        exact readFraction_carries h hk (by decide)
      · by_cases lower : c = 'e'
        · subst lower
          exact readExponent_carries h hk (by decide)
        · by_cases upper : c = 'E'
          · subst upper
            exact readExponent_carries h hk (by decide)
          · simp only [List.cons_append, List.cons.injEq, point, lower, upper, false_and,
              IsEmpty.forall_iff, implies_true]
            exact carries_ite carries_pair (carries_ite carries_pair carries_pair)

/-- What is read after digits that count for the magnitude alone. -/
def readScale (negative : Bool) (digits more : Nat) (k : Cursor) :
    Except Error (Number × Cursor) :=
  match k.rest with
  | '.' :: _ => readFraction negative digits more k
  | _ => readScaled negative digits more k

theorem readScale_carries (h : Ends tail) {more : Nat} : Carries (placed tail line column)
    (readScale negative digits more k)
    (readScale negative digits more (k.placed tail line column)) := by
  rw [readScale, readScale, rest_placed]
  cases hk : k.rest with
  | nil =>
      cases tail with
      | nil => exact readScaled_carries h
      | cons c rest =>
          obtain rfl | rfl := h c rfl
          · exact readScaled_carries h
          · exact readScaled_carries h
  | cons c rest =>
      by_cases point : c = '.'
      · subst point
        exact readFraction_carries h hk (by decide)
      · simp only [List.cons_append, List.cons.injEq, point, false_and, IsEmpty.forall_iff,
          implies_true]
        exact readScaled_carries h

/-- A number ends where the text does, or where it goes on with what is no part of a number. -/
theorem readNumber_carries (h : Ends tail) : Carries (placed tail line column)
    (readNumber negative k) (readNumber negative (k.placed tail line column)) := by
  rw [readNumber, readNumber, rest_placed]
  cases hk : k.rest with
  | nil => exact carries_fail
  | cons c rest =>
      by_cases zero : c = '0'
      · subst zero
        rw [next_placed hk (by decide)]
        dsimp only [List.cons_append]
        rw [rest_placed]
        cases hn : k.next.rest with
        | nil =>
            rw [List.nil_append]
            cases tail with
            | nil => exact readTail_carries h
            | cons d left =>
                dsimp only
                rw [if_neg (Bool.eq_false_iff.mp (h.isDigit_eq_false d rfl))]
                exact readTail_carries h
        | cons d left =>
            dsimp only [List.cons_append]
            exact carries_ite carries_failPeeked (readTail_carries h)
      · simp only [List.cons_append]
        refine carries_ite carries_failPeeked ?_
        rw [← List.cons_append, takeDigits_append h]
        obtain ⟨value, n, left⟩ := takeDigits 0 0 (c :: rest)
        dsimp only
        rw [pastDigits_placed]
        cases left with
        | nil =>
            rw [List.nil_append]
            cases tail with
            | nil => exact readTail_carries h
            | cons d left =>
                dsimp only
                rw [if_neg (Bool.eq_false_iff.mp (h.isDigit_eq_false d rfl))]
                exact readTail_carries h
        | cons d left =>
            refine carries_ite ?_ (readTail_carries h)
            rw [countDigits_placed h]
            exact readScale_carries h

/-- A number ends at the line feed, if not before. -/
theorem readNumber_feeds : Feeds (readNumber negative k) (readNumber negative k.fed) := by
  rw [Feeds, fed_eq_placed]
  exact readNumber_carries ends_lineFeed

/-- Skips the digits of an exponent. -/
def skipMagnitude (k : Cursor) : Except Error Cursor :=
  match k.rest with
  | [] => k.fail .invalidNumber
  | c :: _ => if c.isDigit then .ok k.skipDigits else k.failPeeked .invalidNumber

/-- An exponent that is skipped is its sign and then its digits. -/
theorem skipExponent_eq (k : Cursor) : skipExponent k = skipMagnitude (afterSign k.next).2 := by
  rw [skipExponent, afterSign]
  cases hk : k.next.rest with
  | nil =>
      dsimp only
      rw [skipMagnitude, hk]
  | cons c rest => grind [skipMagnitude]

/-- The digits of an exponent that is skipped end at the line feed, if not before. -/
theorem skipMagnitude_feeds : Feeds (skipMagnitude k) (skipMagnitude k.fed) := by
  rw [skipMagnitude, skipMagnitude, rest_fed, skipDigits_fed]
  cases hk : k.rest with
  | nil => exact carries_fail
  | cons c rest => exact carries_ite carries_ok carries_failPeeked

theorem skipExponent_feeds (hk : k.rest = c :: rest) :
    Feeds (skipExponent k) (skipExponent k.fed) := by
  rw [skipExponent_eq, skipExponent_eq, next_fed hk, fed_eq_placed, afterSign_placed ends_lineFeed]
  exact skipMagnitude_feeds

/-- Skips the whole part of a number. -/
def skipWhole (k : Cursor) : Except Error Cursor :=
  match k.rest with
  | [] => k.fail .invalidNumber
  | '0' :: _ =>
      match k.next.rest with
      | c :: _ => if c.isDigit then k.next.failPeeked .invalidNumber else .ok k.next
      | [] => .ok k.next
  | c :: _ => if c.isDigit then .ok k.skipDigits else k.failPeeked .invalidNumber

/-- Skips an exponent if there is one. -/
def skipScale (k : Cursor) : Except Error Cursor :=
  match k.rest with
  | 'e' :: _ | 'E' :: _ => skipExponent k
  | _ => .ok k

/-- Skips what follows the whole part of a number. -/
def skipTail (whole : Cursor) : Except Error Cursor :=
  match whole.rest with
  | '.' :: _ =>
      if whole.next.skipDigits.column = whole.next.column then
        whole.next.skipDigits.failPeeked .invalidNumber
      else skipScale whole.next.skipDigits
  | 'e' :: _ | 'E' :: _ => skipExponent whole
  | _ => .ok whole

/-- To skip a number is to skip its whole part and then the rest. -/
theorem skipNumber_eq (k : Cursor) : skipNumber k = skipWhole k >>= skipTail := by
  rw [skipNumber, skipWhole]
  cases hk : k.rest with
  | nil => rfl
  | cons c rest =>
      by_cases zero : c = '0'
      · subst zero
        dsimp only
        cases hn : k.next.rest with
        | nil => rfl
        | cons d left =>
            dsimp only
            by_cases digit : d.isDigit
            · rw [if_pos digit, if_pos digit]
              rfl
            · rw [if_neg digit, if_neg digit]
              rfl
      · by_cases digit : c.isDigit
        · simp only [digit, if_true]
          rfl
        · simp only [digit]
          rfl

/-- A whole part that is skipped ends at the line feed, if not before. -/
theorem skipWhole_feeds : Feeds (skipWhole k) (skipWhole k.fed) := by
  rw [skipWhole, skipWhole, rest_fed]
  cases hk : k.rest with
  | nil => exact carries_fail
  | cons c rest =>
      rw [skipDigits_fed, next_fed hk, rest_fed]
      by_cases zero : c = '0'
      · subst zero
        dsimp only [List.cons_append]
        cases hn : k.next.rest with
        | nil => exact carries_ok
        | cons d left =>
            dsimp only [List.cons_append]
            exact carries_ite carries_failPeeked carries_ok
      · simp only [List.cons_append]
        exact carries_ite carries_ok carries_failPeeked

theorem skipScale_feeds : Feeds (skipScale k) (skipScale k.fed) := by
  rw [skipScale, skipScale, rest_fed]
  cases hk : k.rest with
  | nil => exact carries_ok
  | cons c rest =>
      by_cases lower : c = 'e'
      · subst lower
        exact skipExponent_feeds hk
      · by_cases upper : c = 'E'
        · subst upper
          exact skipExponent_feeds hk
        · simp only [List.cons_append, List.cons.injEq, lower, upper, false_and,
            IsEmpty.forall_iff, implies_true]
          exact carries_ok

/-- A fraction and an exponent that are skipped end at the line feed, if not before. -/
theorem skipTail_feeds : Feeds (skipTail k) (skipTail k.fed) := by
  rw [skipTail, skipTail, rest_fed]
  cases hk : k.rest with
  | nil => exact carries_ok
  | cons c rest =>
      rw [next_fed hk, skipDigits_fed]
      by_cases point : c = '.'
      · subst point
        exact carries_ite carries_failPeeked skipScale_feeds
      · by_cases lower : c = 'e'
        · subst lower
          exact skipExponent_feeds hk
        · by_cases upper : c = 'E'
          · subst upper
            exact skipExponent_feeds hk
          · simp only [List.cons_append, List.cons.injEq, point, lower, upper, false_and,
              IsEmpty.forall_iff, implies_true]
            exact carries_ok

/-- A number that is skipped ends at the line feed, if not before. -/
theorem skipNumber_feeds : Feeds (skipNumber k) (skipNumber k.fed) := by
  rw [skipNumber_eq, skipNumber_eq]
  exact carries_bind skipWhole_feeds fun _ => skipTail_feeds

end Numbers

end EntryForm.Json
