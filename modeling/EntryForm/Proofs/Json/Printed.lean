import EntryForm.Proofs.Json.Scalars
import EntryForm.Proofs.Json.Sorted

/-!
# Proofs — Json — values are read as they were printed

* `Readable`: the numbers in a value are read back from their texts.
* `levels`: how many brackets are open at once in its text; the reader has a limit on them.
* `enclosed`: what stands between the brackets of a list or an object, and the one that closes it.
* `ReadBack`: wherever the value is printed, it is read with its objects sorted.  A value has this
  if the values in it do, so that every readable value has it (`Readable.readBack`).
* `read_pretty`: so a whole text is read as the value that it was printed of, with its objects
  sorted.  A value that has itself been read is sorted, and comes back (`read_pretty_of_read`).
-/

namespace EntryForm.Json

open Wire Cursor

/-! ### Conditions -/

/-- The numbers in the value are read back from their texts: the integers are of 64 bits, and the
floating point numbers return. -/
inductive Readable : Json → Prop where
  | null : Readable .null
  | bool (b : Bool) : Readable (.bool b)
  | str (s : String) : Readable (.str s)
  | int {n : Int} (low : -Int.pow 2 63 ≤ n) (high : n < Int.pow 2 64) : Readable (.int n)
  | float {x : Float} (returns : Returns x) : Readable (.float x)
  | arr {items : List Json} (each : ∀ v ∈ items, Readable v) : Readable (.arr items)
  | obj {entries : List (String × Json)} (each : ∀ e ∈ entries, Readable e.2) :
      Readable (.obj entries)

mutual

/-- How many brackets are open at once in the text of the value. -/
def levels : Json → Nat
  | .arr items => levelsItems items + 1
  | .obj entries => levelsEntries entries + 1
  | .null => 0
  | .bool _ => 0
  | .int _ => 0
  | .float _ => 0
  | .str _ => 0

def levelsItems : List Json → Nat
  | [] => 0
  | v :: rest => max v.levels (levelsItems rest)

def levelsEntries : List (String × Json) → Nat
  | [] => 0
  | (_, v) :: rest => max v.levels (levelsEntries rest)

end

/-! ### Printed values -/

variable {level : Nat} {part : String} {parts : List String} {close : Char}

/-- A new line is indented by two blanks for each level. -/
theorem toList_newLine : (newLine level).toList = '\n' :: List.replicate (2 * level) ' ' := by
  simp [newLine, String.toList_append]

/-- The parts of a list or an object and the bracket that closes it, in a line of its own if there
are parts before it. -/
def enclosed (level : Nat) (close : Char) (first : Bool) : List String → List Char
  | [] => (if first then [] else (newLine level).toList) ++ [close]
  | part :: rest =>
      (if first then [] else [',']) ++ part.toList ++ enclosed level close false rest

/-- Parts with a comma between each two are followed by the bracket in a line of its own. -/
theorem toList_intercalate_enclosed :
    (",".intercalate (part :: parts) ++ newLine level).toList ++ [close] =
      enclosed level close true (part :: parts) := by
  suffices ∀ part, (",".intercalate (part :: parts) ++ newLine level).toList ++ [close] =
      part.toList ++ enclosed level close false parts from this part
  induction parts with
  | nil => exact fun part => by simp [enclosed, String.toList_append]
  | cons next rest ih =>
      intro part
      rw [String.intercalate_cons_cons, String.append_assoc, String.toList_append,
        List.append_assoc, ih, enclosed, String.toList_append, List.append_assoc]
      rfl

/-- A list is its elements between brackets. -/
theorem toList_prettyAt_arr {items : List Json} : (prettyAt level (.arr items)).toList =
    '[' :: enclosed level ']' true (prettyItems (level + 1) items) := by
  cases items with
  | nil =>
      rw [prettyAt]
      rfl
  | cons v rest =>
      rw [prettyAt, prettyItems, ← toList_intercalate_enclosed, String.append_assoc,
        String.append_assoc, String.toList_append, ← String.append_assoc, String.toList_append]
      · rfl
      · exact List.cons_ne_nil v rest

/-- An object is its entries between braces. -/
theorem toList_prettyAt_obj {entries : List (String × Json)} :
    (prettyAt level (.obj entries)).toList =
      '{' :: enclosed level '}' true (prettyEntries (level + 1) entries) := by
  cases entries with
  | nil =>
      rw [prettyAt]
      rfl
  | cons e rest =>
      rw [prettyAt, prettyEntries, ← toList_intercalate_enclosed, String.append_assoc,
        String.append_assoc, String.toList_append, ← String.append_assoc, String.toList_append]
      · rfl
      · exact List.cons_ne_nil e rest

/-- What is behind a part does not continue a number. -/
theorem ends_enclosed {tail : List Char} : Ends (enclosed level close false parts ++ tail) := by
  intro c hc
  cases parts with
  | nil =>
      rw [enclosed, toList_newLine] at hc
      exact .inr (Option.some.inj hc).symm
  | cons part rest => exact .inl (Option.some.inj hc).symm

/-! ### Between values -/

section Between

variable {k : Cursor} {blanks tail : List Char} {c : Char} {first : Bool}

/-- A new line is blank. -/
theorem isBlank_newLine (level : Nat) : ∀ c ∈ (newLine level).toList, isBlank c = true := by
  intro c hc
  rw [toList_newLine] at hc
  obtain rfl | hc := List.mem_cons.mp hc
  · rfl
  · exact (List.mem_replicate.mp hc).2 ▸ rfl

/-- What stands between the last part and the closing bracket is blank. -/
theorem isBlank_lastLine :
    ∀ c ∈ (if first then [] else (newLine level).toList), isBlank c = true := by
  split
  · exact List.forall_mem_nil _
  · exact isBlank_newLine level

/-- Blanks are skipped up to what is visible. -/
theorem rest_skipBlanks_append (blanks : List Char) (hb : ∀ c ∈ blanks, isBlank c = true)
    (hc : isBlank c = false) (hk : k.rest = blanks ++ c :: tail) : k.skipBlanks.rest = c :: tail := by
  rw [rest_skipBlanks, hk, List.dropWhile_append_of_pos hb,
    List.dropWhile_cons_of_neg (Bool.eq_false_iff.mp hc)]

/-- There is another element where one stands. -/
theorem hasElement_more (hb : ∀ c ∈ blanks, isBlank c = true) (hc : isBlank c = false)
    (other : c ≠ ']') (hk : k.rest = (if first then [] else [',']) ++ blanks ++ c :: tail) :
    Reaches (hasElement first k) true (c :: tail) := by
  cases first with
  | true =>
      have here : k.skipBlanks.rest = c :: tail := rest_skipBlanks_append _ hb hc hk
      rw [hasElement]
      dsimp only
      rw [here]
      simp only [if_true]
      exact reaches_ok here
  | false =>
      have comma : k.skipBlanks.rest = ',' :: (blanks ++ c :: tail) :=
        rest_skipBlanks_append [] (by simp) rfl hk
      have here : k.skipBlanks.next.skipBlanks.rest = c :: tail :=
        rest_skipBlanks_append _ hb hc (rest_next comma)
      simp only [hasElement, comma, here, List.cons.injEq, other, false_and, IsEmpty.forall_iff,
        implies_true, Bool.false_eq_true, if_false]
      exact reaches_ok here

/-- There is no other element at the closing bracket. -/
theorem hasElement_end (hb : ∀ c ∈ blanks, isBlank c = true) (hk : k.rest = blanks ++ ']' :: tail) :
    Reaches (hasElement first k) false (']' :: tail) := by
  have here : k.skipBlanks.rest = ']' :: tail := rest_skipBlanks_append _ hb rfl hk
  rw [hasElement]
  dsimp only
  rw [here]
  exact reaches_ok here

/-- A list ends behind its closing bracket. -/
theorem endList_printed (hk : k.rest = ']' :: tail) : Arrives (endList k) tail := by
  have here : k.skipBlanks.rest = ']' :: tail :=
    rest_skipBlanks_append [] (by simp) rfl hk
  rw [endList]
  dsimp only
  rw [here]
  exact ⟨_, rfl, rest_next here⟩

/-- There is another key where one stands. -/
theorem hasKey_more (hb : ∀ c ∈ blanks, isBlank c = true)
    (hk : k.rest = (if first then [] else [',']) ++ blanks ++ '"' :: tail) :
    Reaches (hasKey first k) true ('"' :: tail) := by
  cases first with
  | true =>
      have here : k.skipBlanks.rest = '"' :: tail := rest_skipBlanks_append _ hb rfl hk
      rw [hasKey]
      dsimp only
      rw [here]
      exact reaches_ok here
  | false =>
      have comma : k.skipBlanks.rest = ',' :: (blanks ++ '"' :: tail) :=
        rest_skipBlanks_append [] (by simp) rfl hk
      have here : k.skipBlanks.next.skipBlanks.rest = '"' :: tail :=
        rest_skipBlanks_append _ hb rfl (rest_next comma)
      rw [hasKey]
      dsimp only
      rw [comma]
      simp only [Bool.false_eq_true, if_false, here]
      exact reaches_ok here

/-- There is no other key at the closing brace. -/
theorem hasKey_end (hb : ∀ c ∈ blanks, isBlank c = true) (hk : k.rest = blanks ++ '}' :: tail) :
    Reaches (hasKey first k) false ('}' :: tail) := by
  have here : k.skipBlanks.rest = '}' :: tail := rest_skipBlanks_append _ hb rfl hk
  rw [hasKey]
  dsimp only
  rw [here]
  exact reaches_ok here

/-- An object ends behind its closing brace. -/
theorem endObject_printed (hk : k.rest = '}' :: tail) : Arrives (endObject k) tail := by
  have here : k.skipBlanks.rest = '}' :: tail :=
    rest_skipBlanks_append [] (by simp) rfl hk
  rw [endObject, here]
  exact ⟨_, rfl, rest_next here⟩

/-- A colon stands right behind its key. -/
theorem afterColon_printed (hk : k.rest = ':' :: tail) : Arrives (afterColon k) tail := by
  have here : k.skipBlanks.rest = ':' :: tail :=
    rest_skipBlanks_append [] (by simp) rfl hk
  rw [afterColon, here]
  exact ⟨_, rfl, rest_next here⟩

/-- Below the limit there is another level. -/
theorem enter_printed {depth : Nat} (hd : 1 < depth) (hk : k.rest = c :: tail) :
    Arrives (enter depth k) tail := by
  rw [enter, if_neg (Nat.not_le.mpr hd)]
  exact ⟨_, rfl, rest_next hk⟩

end Between

/-! ### Values of any shape -/

/-- A string is printed between quotes. -/
theorem toList_writeString (s : String) :
    (writeString s).toList = '"' :: (s.toList.flatMap escapeChar ++ ['"']) := by
  simp [writeString, String.toList_append]

/-- What a printed value begins with. -/
theorem Readable.begins {v : Json} (h : v.Readable) (level : Nat) :
    ∃ c cs, (prettyAt level v).toList = c :: cs ∧ isBlank c = false ∧ c ≠ ']' ∧
      (v ≠ .null → c ≠ 'n') := by
  have start {c : Char} {cs : List Char} (text : (prettyAt level v).toList = c :: cs)
      (hc : isBlank c = false ∧ c ≠ ']' ∧ c ≠ 'n') : ∃ c cs, (prettyAt level v).toList = c :: cs ∧
        isBlank c = false ∧ c ≠ ']' ∧ (v ≠ .null → c ≠ 'n') :=
    ⟨c, cs, text, hc.1, hc.2.1, fun _ => hc.2.2⟩
  have number {n : Number} (h : IsNumber (prettyAt level v).toList n) :
      ∃ c cs, (prettyAt level v).toList = c :: cs ∧ isBlank c = false ∧ c ≠ ']' ∧
        (v ≠ .null → c ≠ 'n') := by
    obtain ⟨c, rest, hc, begins⟩ := h.begins
    refine start hc ⟨isBlank_of_begins begins, ?_, ?_⟩
    · rintro rfl
      simp at begins
    · rintro rfl
      simp at begins
  cases h with
  | null =>
      rw [prettyAt]
      exact ⟨'n', ['u', 'l', 'l'], rfl, rfl, by decide, fun h => absurd rfl h⟩
  | bool b =>
      rw [prettyAt] at start
      cases b with
      | false => exact start (c := 'f') rfl (by decide)
      | true => exact start (c := 't') rfl (by decide)
  | str s =>
      rw [prettyAt] at start
      exact start (toList_writeString s) (by decide)
  | int low high =>
      rw [prettyAt] at number
      exact number (isNumber_int low high)
  | float returns =>
      rw [prettyAt] at number
      exact number (isNumber_float returns)
  | arr each => exact start toList_prettyAt_arr (by decide)
  | obj each => exact start toList_prettyAt_obj (by decide)

/-- No printed text is empty. -/
theorem Readable.length_pos {v : Json} (h : v.Readable) (level : Nat) :
    0 < (prettyAt level v).toList.length := by
  obtain ⟨c, cs, text, -⟩ := h.begins level
  rw [text]
  exact Nat.succ_pos _

section Parts

variable {fuel : Nat} {first : Bool} {k : Cursor} {tail : List Char} {key : String} {v : Json}
  {items : List Json} {entries : List (String × Json)}

/-- A printed value begins with no blanks, and those in front of it are skipped. -/
theorem skipBlanks_printed (h : v.Readable) (blanks : List Char)
    (hb : ∀ c ∈ blanks, isBlank c = true)
    (hk : k.rest = blanks ++ ((prettyAt level v).toList ++ tail)) :
    k.skipBlanks.rest = (prettyAt level v).toList ++ tail := by
  obtain ⟨c, cs, text, visible, -⟩ := h.begins level
  rw [text] at hk ⊢
  exact rest_skipBlanks_append _ hb visible hk

/-- Where an element is printed there is another one. -/
theorem hasElement_printed (h : v.Readable)
    (hk : k.rest = enclosed level ']' first (prettyItems (level + 1) (v :: items)) ++ tail) :
    Reaches (hasElement first k) true ((prettyAt (level + 1) v).toList ++
      (enclosed level ']' false (prettyItems (level + 1) items) ++ tail)) := by
  obtain ⟨c, cs, text, visible, other, -⟩ := h.begins (level + 1)
  rw [prettyItems, enclosed, String.toList_append, text] at hk
  rw [text]
  refine hasElement_more (isBlank_newLine (level + 1)) visible other ?_
  simpa using hk

/-- Where an entry is printed there is another key, behind its quote. -/
theorem hasKey_printed
    (hk : k.rest =
      enclosed level '}' first (prettyEntries (level + 1) ((key, v) :: entries)) ++ tail) :
    Reaches (hasKey first k) true ('"' :: (key.toList.flatMap escapeChar ++ '"' :: ':' :: ' ' ::
      ((prettyAt (level + 1) v).toList ++
        (enclosed level '}' false (prettyEntries (level + 1) entries) ++ tail)))) := by
  rw [prettyEntries, enclosed] at hk
  refine hasKey_more (isBlank_newLine (level + 1)) (hk.trans ?_)
  simp [String.toList_append, toList_writeString]

/-- There is at least the closing bracket. -/
theorem length_enclosed_nil : 0 < (enclosed level close first []).length := by
  rw [enclosed, List.length_append]
  exact Nat.succ_pos _

/-- An element is shorter than the list that it is in, by a comma or a new line. -/
theorem length_enclosed_items (v : Json) (items : List Json) :
    (prettyAt (level + 1) v).toList.length +
      (enclosed level ']' false (prettyItems (level + 1) items)).length <
    (enclosed level ']' first (prettyItems (level + 1) (v :: items))).length := by
  rw [prettyItems, enclosed, String.toList_append, toList_newLine]
  simp
  omega

/-- A value is shorter than the object that it is in, by more than its quotes. -/
theorem length_enclosed_entries (key : String) (v : Json) (entries : List (String × Json)) :
    (prettyAt (level + 1) v).toList.length +
      (enclosed level '}' false (prettyEntries (level + 1) entries)).length + 1 <
    (enclosed level '}' first (prettyEntries (level + 1) ((key, v) :: entries))).length := by
  rw [prettyEntries, enclosed]
  simp [String.toList_append, toList_writeString, toList_newLine]
  omega

end Parts

section Any

variable {fuel depth : Nat} {first : Bool} {k : Cursor} {tail : List Char}

/-- Wherever the value is printed it is read with its objects sorted, if there are levels for it and
fuel for its text. -/
structure ReadBack (v : Json) : Prop where
  read : ∀ {fuel depth level : Nat} {k : Cursor} {tail : List Char}, v.levels < depth →
    (prettyAt level v).toList.length ≤ fuel → Ends tail →
    k.skipBlanks.rest = (prettyAt level v).toList ++ tail →
    Reaches (readAny fuel depth k) v.sorted tail

/-- The elements of a list are read if each is. -/
theorem readAnyElements_printed {items : List Json} (each : ∀ v ∈ items, v.Readable ∧ v.ReadBack)
    (hd : levelsItems items < depth)
    (hf : (enclosed level ']' first (prettyItems (level + 1) items)).length ≤ fuel)
    (hk : k.rest = enclosed level ']' first (prettyItems (level + 1) items) ++ tail) :
    Reaches (readAnyElements fuel depth first k) (sortedItems items) (']' :: tail) := by
  induction items generalizing fuel first k with
  | nil =>
      obtain ⟨fuel, rfl⟩ := Nat.exists_eq_add_of_lt (Nat.lt_of_lt_of_le length_enclosed_nil hf)
      rw [prettyItems, enclosed, List.append_assoc] at hk
      rw [readAnyElements]
      exact (hasElement_end isBlank_lastLine hk).bind fun k hk => reaches_ok hk
  | cons v rest ih =>
      obtain ⟨⟨readable, back⟩, others⟩ := List.forall_mem_cons.mp each
      have long := Nat.lt_of_lt_of_le (length_enclosed_items v rest) hf
      obtain ⟨fuel, rfl⟩ := Nat.exists_eq_add_of_lt long
      rw [levelsItems] at hd
      rw [readAnyElements]
      refine (hasElement_printed readable hk).bind fun k hk => ?_
      have here := skipBlanks_printed readable [] (by simp) hk
      refine (back.read (by omega) (by omega) ends_enclosed here).bind fun k hk => ?_
      exact (ih others (by omega) (by omega) hk).bind fun k hk => reaches_ok hk

/-- The members of an object are read if the values are. -/
theorem readAnyMembers_printed {entries : List (String × Json)}
    (each : ∀ e ∈ entries, e.2.Readable ∧ e.2.ReadBack) (hd : levelsEntries entries < depth)
    (hf : (enclosed level '}' first (prettyEntries (level + 1) entries)).length ≤ fuel)
    (hk : k.rest = enclosed level '}' first (prettyEntries (level + 1) entries) ++ tail) :
    Reaches (readAnyMembers fuel depth first k) (sortedEntries entries) ('}' :: tail) := by
  induction entries generalizing fuel first k with
  | nil =>
      obtain ⟨fuel, rfl⟩ := Nat.exists_eq_add_of_lt (Nat.lt_of_lt_of_le length_enclosed_nil hf)
      rw [prettyEntries, enclosed, List.append_assoc] at hk
      rw [readAnyMembers]
      exact (hasKey_end isBlank_lastLine hk).bind fun k hk => reaches_ok hk
  | cons e rest ih =>
      obtain ⟨key, v⟩ := e
      obtain ⟨⟨readable, back⟩, others⟩ := List.forall_mem_cons.mp each
      dsimp only at readable back
      have long := Nat.lt_of_lt_of_le (length_enclosed_entries key v rest) hf
      obtain ⟨fuel, rfl⟩ := Nat.exists_eq_add_of_lt long
      rw [levelsEntries] at hd
      rw [readAnyMembers]
      refine (hasKey_printed hk).bind fun k hk => ?_
      refine (readString_printed (rest_next hk)).bind fun k hk => ?_
      refine (afterColon_printed hk).bind fun k hk => ?_
      have here := skipBlanks_printed readable [' '] (by simp [isBlank]) hk
      refine (back.read (by omega) (by omega) ends_enclosed here).bind fun k hk => ?_
      exact (ih others (by omega) (by omega) hk).bind fun k hk => reaches_ok hk

/-- There is fuel for what is printed of a value, so the value is read if it is with one more unit
of fuel. -/
theorem ReadBack.of_step {v : Json} (h : v.Readable)
    (step : ∀ {fuel depth level : Nat} {k : Cursor} {tail : List Char}, v.levels < depth →
      (prettyAt level v).toList.length ≤ fuel + 1 → Ends tail →
      k.skipBlanks.rest = (prettyAt level v).toList ++ tail →
      Reaches (readAny (fuel + 1) depth k) v.sorted tail) : v.ReadBack := by
  refine ⟨fun {fuel depth level k tail} hd hf ends hk => ?_⟩
  obtain ⟨fuel, rfl⟩ := Nat.exists_eq_add_of_lt (Nat.lt_of_lt_of_le (h.length_pos level) hf)
  rw [Nat.zero_add] at hf ⊢
  exact step hd hf ends hk

/-- A number is read where it is printed, as long as it ends there. -/
theorem ReadBack.number {v : Json} {cs : List Char} {n : Number} (h : v.Readable)
    (number : IsNumber cs n) (same : v.sorted = n.toJson)
    (text : ∀ level, (prettyAt level v).toList = cs) : v.ReadBack := by
  refine .of_step h fun hd hf ends hk => ?_
  rw [text] at hk
  obtain ⟨c, rest, hc, begins⟩ := number.begins
  rw [readAny_signed (hk.trans (congrArg (· ++ _) hc)) begins]
  exact (number.read ends hk).bind fun k hk => same ▸ reaches_ok hk

/-- The elements of a list are read between its brackets. -/
theorem ReadBack.arr {items : List Json} (each : ∀ v ∈ items, v.Readable ∧ v.ReadBack) :
    (Json.arr items).ReadBack := by
  refine .of_step (.arr fun v hv => (each v hv).1) fun hd hf ends hk => ?_
  rw [levels] at hd
  rw [toList_prettyAt_arr] at hf hk
  rw [readAny, hk]
  refine (enter_printed (by omega) hk).bind fun k hk => ?_
  refine (readAnyElements_printed each (by omega) (Nat.le_of_succ_le_succ hf) hk).bind
    fun k hk => ?_
  exact (endList_printed hk).bind fun k hk => reaches_ok hk

/-- The members of an object are read between its braces, and sorted. -/
theorem ReadBack.obj {entries : List (String × Json)}
    (each : ∀ e ∈ entries, e.2.Readable ∧ e.2.ReadBack) : (Json.obj entries).ReadBack := by
  refine .of_step (.obj fun e he => (each e he).1) fun hd hf ends hk => ?_
  rw [levels] at hd
  rw [toList_prettyAt_obj] at hf hk
  rw [readAny, hk]
  refine (enter_printed (by omega) hk).bind fun k hk => ?_
  refine (readAnyMembers_printed each (by omega) (Nat.le_of_succ_le_succ hf) hk).bind
    fun k hk => ?_
  exact (endObject_printed hk).bind fun k hk => reaches_ok hk

/-- A value whose numbers are read back is read back. -/
theorem Readable.readBack {v : Json} (h : v.Readable) : v.ReadBack := by
  induction h with
  | null =>
      refine .of_step .null fun hd hf ends hk => ?_
      rw [prettyAt] at hk
      rw [readAny, hk]
      exact (readWord_printed (rest_next hk)).bind fun k hk => reaches_ok hk
  | bool b =>
      refine .of_step (.bool b) fun hd hf ends hk => ?_
      rw [prettyAt] at hk
      cases b with
      | true =>
          rw [readAny, hk]
          exact (readWord_printed (rest_next hk)).bind fun k hk => reaches_ok hk
      | false =>
          rw [readAny, hk]
          exact (readWord_printed (rest_next hk)).bind fun k hk => reaches_ok hk
  | str s =>
      refine .of_step (.str s) fun hd hf ends hk => ?_
      rw [prettyAt, toList_writeString, List.cons_append] at hk
      rw [readAny, hk]
      have behind := rest_next hk
      rw [List.append_assoc] at behind
      exact (readString_printed behind).bind fun k hk => reaches_ok hk
  | int low high =>
      exact .number (.int low high) (isNumber_int low high) rfl fun _ => rfl
  | float returns => exact .number (.float returns) (isNumber_float returns) rfl fun _ => rfl
  | arr each ih => exact .arr fun v hv => ⟨each v hv, ih v hv⟩
  | obj each ih => exact .obj fun e he => ⟨each e he, ih e he⟩

end Any

/-! ### Whole texts -/

/-- The text of a value is as long as its fuel allows. -/
theorem length_le_fuelFor (text : String) : text.toList.length ≤ fuelFor text := by
  rw [fuelFor, String.length_toList]
  omega

/-- Where nothing is left the text is at its end. -/
theorem atEnd_printed {k : Cursor} (hk : k.rest = []) : atEnd k = .ok () := by
  have none : k.skipBlanks.rest = [] := by rw [rest_skipBlanks, hk, List.dropWhile_nil]
  rw [atEnd, none]

/-- A printed text begins with no blanks. -/
theorem start_printed {v : Json} (h : v.Readable) :
    (Cursor.start v.pretty).skipBlanks.rest = (prettyAt 0 v).toList ++ [] :=
  skipBlanks_printed h [] (List.forall_mem_nil _) (List.append_nil _).symm

/-- The end of the text ends a number. -/
theorem ends_nil : Ends [] := fun _ hc => by cases hc

/-- A text that is printed of a value is read as the value with its objects sorted, if its numbers
are read back and not too many brackets are open at once. -/
theorem read_pretty {v : Json} (h : v.Readable) (hd : v.levels < depthLimit) :
    read v.pretty = .ok v.sorted := by
  obtain ⟨k, read, hk⟩ :=
    h.readBack.read hd (length_le_fuelFor v.pretty) ends_nil (start_printed h)
  exact bind_eq_ok.mpr ⟨_, read, bind_eq_ok.mpr ⟨_, atEnd_printed hk, rfl⟩⟩

/-- A value that has been read comes back as it is. -/
theorem read_pretty_of_read {text : String} {v : Json} (first : read text = .ok v) (h : v.Readable)
    (hd : v.levels < depthLimit) : read v.pretty = .ok v := by
  obtain ⟨x, hx, result⟩ := bind_eq_ok.mp first
  obtain ⟨-, -, same⟩ := bind_eq_ok.mp result
  obtain rfl := Except.ok.inj same
  rw [read_pretty h hd, sorted_of_readAny hx]

end EntryForm.Json
