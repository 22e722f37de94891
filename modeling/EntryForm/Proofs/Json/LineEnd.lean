import Mathlib.Data.List.TakeWhile
import EntryForm.Proofs.Json.Fed

/-!
# Proofs — Json — a line feed behind a text

JSON ends a text at its last value, so a line feed behind it changes nothing that is read
(`readAs_lineEnd`).  Every reader of values feeds what it reads.  The line feed makes for more fuel,
so for the readers with fuel it is shown that any more will do: `SkipsFed`, `AnyFed` and `ShapeFed`
say so of the readers that call one another, and one more unit of fuel keeps them up.
-/

namespace EntryForm.Json

open Wire Cursor

variable {fuel fuel' depth : Nat} {first : Bool} {k k' : Cursor} {c : Char} {rest : List Char}

/-! ### Between values -/

/-- Whether another element follows is told by a bracket or a comma, before the line feed. -/
theorem hasElement_feeds : Feeds (hasElement first k) (hasElement first k.fed) := by
  rw [hasElement, hasElement]
  dsimp only
  cases hk : k.skipBlanks.rest with
  | nil => exact carries_failPeeked
  | cons c rest =>
      rw [skipBlanks_fed hk, rest_fed, hk, next_fed hk]
      by_cases close : c = ']'
      · subst close
        exact carries_pair
      · simp only [List.cons_append]
        refine carries_ite carries_pair (carries_ite ?_ carries_failPeeked)
        cases hn : k.skipBlanks.next.skipBlanks.rest with
        | nil => exact carries_failPeeked
        | cons d left =>
            rw [skipBlanks_fed hn, rest_fed, hn]
            by_cases close : d = ']'
            · subst close
              exact carries_failPeeked
            · simp only [List.cons_append, List.cons.injEq, close, false_and,
                IsEmpty.forall_iff, implies_true]
              exact carries_pair

/-- Whether another key follows is told by a brace or a quote, before the line feed. -/
theorem hasKey_feeds : Feeds (hasKey first k) (hasKey first k.fed) := by
  rw [hasKey, hasKey]
  dsimp only
  cases hk : k.skipBlanks.rest with
  | nil => exact carries_failPeeked
  | cons c rest =>
      rw [skipBlanks_fed hk, rest_fed, hk, next_fed hk]
      by_cases close : c = '}'
      · subst close
        exact carries_pair
      · simp only [List.cons_append]
        refine carries_ite (carries_ite carries_pair carries_failPeeked) ?_
        refine carries_ite ?_ carries_failPeeked
        split
        · exact carries_failPeeked
        · next hn =>
            rw [skipBlanks_fed hn, rest_fed, hn]
            exact carries_pair
        · exact carries_failPeeked
        · exact carries_failPeeked

/-- Another key begins with its quote. -/
theorem rest_of_hasKey (h : hasKey first k = .ok (true, k')) : ∃ rest, k'.rest = '"' :: rest := by
  rw [hasKey] at h
  dsimp only at h
  grind [Cursor.failPeeked]

/-- The bracket that ends an array stands before the line feed. -/
theorem endList_feeds : Feeds (endList k) (endList k.fed) := by
  rw [endList, endList]
  dsimp only
  split
  · exact carries_failPeeked
  · next hk =>
      rw [skipBlanks_fed hk, rest_fed, hk, next_fed hk]
      exact carries_ok
  · split
    · exact carries_failPeeked
    · exact carries_failPeeked
  · exact carries_failPeeked

/-- The brace that ends an object stands before the line feed. -/
theorem endObject_feeds : Feeds (endObject k) (endObject k.fed) := by
  rw [endObject, endObject]
  split
  · exact carries_failPeeked
  · next hk =>
      rw [skipBlanks_fed hk, rest_fed, hk, next_fed hk]
      exact carries_ok
  · exact carries_failPeeked
  · exact carries_failPeeked

/-- A colon stands before the line feed. -/
theorem afterColon_feeds : Feeds (afterColon k) (afterColon k.fed) := by
  rw [afterColon, afterColon]
  split
  · exact carries_failPeeked
  · next hk =>
      rw [skipBlanks_fed hk, rest_fed, hk, next_fed hk]
      exact carries_ok
  · exact carries_failPeeked

/-- How deep values nest does not depend on the text behind them. -/
theorem enter_feeds (hk : k.rest = c :: rest) : Feeds (enter depth k) (enter depth k.fed) := by
  rw [enter, enter, next_fed hk]
  exact carries_ite carries_failPeeked carries_ok

/-! ### Skipping -/

/-- With this fuel or more, whatever is skipped is skipped in the fed text as well. -/
structure SkipsFed (fuel : Nat) : Prop where
  value : ∀ {fuel' k}, fuel ≤ fuel' → Feeds (skipValue fuel k) (skipValue fuel' k.fed)
  elements : ∀ {fuel' k}, fuel ≤ fuel' → Feeds (skipElements fuel k) (skipElements fuel' k.fed)
  members : ∀ {fuel' k}, fuel ≤ fuel' → Feeds (skipMembers fuel k) (skipMembers fuel' k.fed)

/-- Without fuel nothing is skipped. -/
theorem skipsFed_zero : SkipsFed 0 where
  value _ := by rw [skipValue]; exact carries_fail
  elements _ := by rw [skipElements]; exact carries_fail
  members _ := by rw [skipMembers]; exact carries_fail

/-- One more unit of fuel skips a value, strings and numbers included. -/
theorem SkipsFed.skipValue (ih : SkipsFed fuel) (hf : fuel ≤ fuel') :
    Feeds (skipValue (fuel + 1) k) (skipValue (fuel' + 1) k.fed) := by
  rw [Json.skipValue, Json.skipValue]
  dsimp only
  split
  · exact carries_failPeeked
  · next hk =>
      rw [skipBlanks_fed hk, rest_fed, hk, next_fed hk]
      exact readWord_feeds
  · next hk =>
      rw [skipBlanks_fed hk, rest_fed, hk, next_fed hk]
      exact readWord_feeds
  · next hk =>
      rw [skipBlanks_fed hk, rest_fed, hk, next_fed hk]
      exact readWord_feeds
  · next hk =>
      rw [skipBlanks_fed hk, rest_fed, hk, next_fed hk]
      exact skipNumber_feeds
  · next hk =>
      rw [skipBlanks_fed hk, rest_fed, hk, next_fed hk]
      exact skipString_feeds
  · next hk =>
      rw [skipBlanks_fed hk, rest_fed, hk, next_fed hk]
      dsimp only [List.cons_append]
      cases hn : k.skipBlanks.next.skipBlanks.rest with
      | nil => exact carries_failPeeked
      | cons d left =>
          rw [skipBlanks_fed hn, rest_fed, hn, next_fed hn]
          by_cases close : d = ']'
          · subst close
            exact carries_ok
          · simp only [List.cons_append, List.cons.injEq, close, false_and,
              IsEmpty.forall_iff, implies_true]
            exact ih.elements hf
  · next hk =>
      rw [skipBlanks_fed hk, rest_fed, hk, next_fed hk]
      dsimp only [List.cons_append]
      cases hn : k.skipBlanks.next.skipBlanks.rest with
      | nil => exact carries_failPeeked
      | cons d left =>
          rw [skipBlanks_fed hn, rest_fed, hn, next_fed hn]
          by_cases close : d = '}'
          · subst close
            exact carries_ok
          · simp only [List.cons_append, List.cons.injEq, close, false_and,
              IsEmpty.forall_iff, implies_true]
            exact ih.members hf
  · next c rest _ _ _ _ _ _ _ hk =>
      rw [skipBlanks_fed hk, rest_fed, hk]
      simp only [List.cons_append]
      exact carries_ite skipNumber_feeds carries_failPeeked

/-- One more unit of fuel skips one more element. -/
theorem SkipsFed.skipElements (ih : SkipsFed fuel) (hf : fuel ≤ fuel') :
    Feeds (skipElements (fuel + 1) k) (skipElements (fuel' + 1) k.fed) := by
  rw [Json.skipElements, Json.skipElements]
  refine carries_bind (ih.value hf) fun behind => ?_
  rw [move_cursor]
  dsimp only
  split
  · exact carries_failPeeked
  · next hk =>
      rw [skipBlanks_fed hk, rest_fed, hk, next_fed hk]
      exact carries_ok
  · next hk =>
      rw [skipBlanks_fed hk, rest_fed, hk, next_fed hk]
      exact ih.elements hf
  · exact carries_failPeeked

/-- One more unit of fuel skips one more member. -/
theorem SkipsFed.skipMembers (ih : SkipsFed fuel) (hf : fuel ≤ fuel') :
    Feeds (skipMembers (fuel + 1) k) (skipMembers (fuel' + 1) k.fed) := by
  rw [Json.skipMembers, Json.skipMembers]
  dsimp only
  split
  · exact carries_failPeeked
  · next hk =>
      rw [skipBlanks_fed hk, rest_fed, hk, next_fed hk]
      refine carries_bind skipString_feeds fun _ => carries_bind afterColon_feeds fun _ => ?_
      refine carries_bind (ih.value hf) fun behind => ?_
      rw [move_cursor]
      split
      · exact carries_failPeeked
      · next hk =>
          rw [skipBlanks_fed hk, rest_fed, hk, next_fed hk]
          exact carries_ok
      · next hk =>
          rw [skipBlanks_fed hk, rest_fed, hk, next_fed hk]
          exact ih.members hf
      · exact carries_failPeeked
  · exact carries_failPeeked

/-- Skipping is fed with any fuel. -/
theorem skipsFed (fuel : Nat) : SkipsFed fuel := by
  induction fuel with
  | zero => exact skipsFed_zero
  | succ fuel ih =>
      refine ⟨fun {_ _} hf => ?_, fun {_ _} hf => ?_, fun {_ _} hf => ?_⟩
      all_goals obtain ⟨more, rfl⟩ := Nat.exists_eq_add_of_lt hf
      · exact ih.skipValue (Nat.le_add_right _ _)
      · exact ih.skipElements (Nat.le_add_right _ _)
      · exact ih.skipMembers (Nat.le_add_right _ _)

/-! ### Values of any shape -/

/-- With this fuel or more, any value that is read is read from the fed text as well. -/
structure AnyFed (fuel : Nat) : Prop where
  value : ∀ {fuel' depth k}, fuel ≤ fuel' → Feeds (readAny fuel depth k) (readAny fuel' depth k.fed)
  elements : ∀ {fuel' depth first k}, fuel ≤ fuel' →
    Feeds (readAnyElements fuel depth first k) (readAnyElements fuel' depth first k.fed)
  members : ∀ {fuel' depth first k}, fuel ≤ fuel' →
    Feeds (readAnyMembers fuel depth first k) (readAnyMembers fuel' depth first k.fed)

/-- Without fuel no value is read. -/
theorem anyFed_zero : AnyFed 0 where
  value _ := by rw [readAny]; exact carries_fail
  elements _ := by rw [readAnyElements]; exact carries_fail
  members _ := by rw [readAnyMembers]; exact carries_fail

/-- One more unit of fuel reads a value, if its parts are read. -/
theorem AnyFed.readAny (ih : AnyFed fuel) (hf : fuel ≤ fuel') :
    Feeds (readAny (fuel + 1) depth k) (readAny (fuel' + 1) depth k.fed) := by
  rw [Json.readAny, Json.readAny]
  dsimp only
  split
  · exact carries_failPeeked
  · next hk =>
      rw [skipBlanks_fed hk, rest_fed, hk, next_fed hk]
      exact carries_bind readWord_feeds fun _ => carries_pair
  · next hk =>
      rw [skipBlanks_fed hk, rest_fed, hk, next_fed hk]
      exact carries_bind readWord_feeds fun _ => carries_pair
  · next hk =>
      rw [skipBlanks_fed hk, rest_fed, hk, next_fed hk]
      exact carries_bind readWord_feeds fun _ => carries_pair
  · next hk =>
      rw [skipBlanks_fed hk, rest_fed, hk, next_fed hk]
      exact carries_bind readNumber_feeds fun _ => carries_pair
  · next hk =>
      rw [skipBlanks_fed hk, rest_fed, hk, next_fed hk]
      exact carries_bind readString_feeds fun _ => carries_pair
  · next hk =>
      rw [skipBlanks_fed hk, rest_fed, hk]
      refine carries_bind (enter_feeds hk) fun _ => carries_bind (ih.elements hf) fun _ => ?_
      exact carries_bind endList_feeds fun _ => carries_pair
  · next hk =>
      rw [skipBlanks_fed hk, rest_fed, hk]
      refine carries_bind (enter_feeds hk) fun _ => carries_bind (ih.members hf) fun _ => ?_
      exact carries_bind endObject_feeds fun _ => carries_pair
  · next c rest _ _ _ _ _ _ _ hk =>
      rw [skipBlanks_fed hk, rest_fed, hk]
      simp only [List.cons_append]
      exact carries_ite (carries_bind readNumber_feeds fun _ => carries_pair) carries_failPeeked

/-- One more unit of fuel reads one more element. -/
theorem AnyFed.readAnyElements (ih : AnyFed fuel) (hf : fuel ≤ fuel') :
    Feeds (readAnyElements (fuel + 1) depth first k)
      (readAnyElements (fuel' + 1) depth first k.fed) := by
  rw [Json.readAnyElements, Json.readAnyElements]
  refine carries_bind hasElement_feeds fun _ => carries_ite ?_ carries_pair
  exact carries_bind (ih.value hf) fun _ => carries_bind (ih.elements hf) fun _ => carries_pair

/-- What is read of another key begins at its quote. -/
theorem feeds_hasKey {ρ : Type} [HasCursor ρ] {f f' : Bool × Cursor → Except Error ρ}
    (more : ∀ {k rest}, k.rest = '"' :: rest → Feeds (f (true, k)) (f' (true, k.fed)))
    (none : ∀ k, Feeds (f (false, k)) (f' (false, k.fed))) :
    Feeds (hasKey first k >>= f) (hasKey first k.fed >>= f') := by
  refine carries_bind_of hasKey_feeds fun ⟨another, k'⟩ h => ?_
  cases another with
  | true =>
      obtain ⟨rest, hk⟩ := rest_of_hasKey h
      exact more hk
  | false => exact none k'

/-- One more unit of fuel reads one more member. -/
theorem AnyFed.readAnyMembers (ih : AnyFed fuel) (hf : fuel ≤ fuel') :
    Feeds (readAnyMembers (fuel + 1) depth first k)
      (readAnyMembers (fuel' + 1) depth first k.fed) := by
  rw [Json.readAnyMembers, Json.readAnyMembers]
  refine feeds_hasKey (fun hk => ?_) fun _ => carries_pair
  dsimp only
  rw [if_pos rfl, if_pos rfl, next_fed hk]
  refine carries_bind readString_feeds fun _ => carries_bind afterColon_feeds fun _ => ?_
  exact carries_bind (ih.value hf) fun _ => carries_bind (ih.members hf) fun _ => carries_pair

/-- Reading a value of any shape is fed with any fuel. -/
theorem anyFed (fuel : Nat) : AnyFed fuel := by
  induction fuel with
  | zero => exact anyFed_zero
  | succ fuel ih =>
      refine ⟨fun {_ _ _} hf => ?_, fun {_ _ _ _} hf => ?_, fun {_ _ _ _} hf => ?_⟩
      all_goals obtain ⟨more, rfl⟩ := Nat.exists_eq_add_of_lt hf
      · exact ih.readAny (Nat.le_add_right _ _)
      · exact ih.readAnyElements (Nat.le_add_right _ _)
      · exact ih.readAnyMembers (Nat.le_add_right _ _)

/-! ### Values of a shape -/

/-- A value of another type is no result. -/
theorem feeds_wrongType {ρ : Type} [HasCursor ρ] {expected : String} {k : Cursor}
    {r : Except Error ρ} : Feeds (wrongType expected k) r :=
  fun _ h => absurd h wrongType_ne_ok

/-- A mismatch in an object is no result. -/
theorem feeds_failObject {ρ : Type} [HasCursor ρ] {m : Mismatch} {k : Cursor} {r : Except Error ρ} :
    Feeds (failObject k m) r :=
  fun _ h => absurd h failObject_ne_ok

/-- A value read as text is a string, or no result. -/
theorem readText_feeds : Feeds (readText k) (readText k.fed) := by
  rw [readText, readText]
  split
  · exact carries_failPeeked
  · next hk =>
      rw [skipBlanks_fed hk, rest_fed, hk, next_fed hk]
      exact readString_feeds
  · exact feeds_wrongType

/-- A value read as a flag is a word, or no result. -/
theorem readFlag_feeds : Feeds (readFlag k) (readFlag k.fed) := by
  rw [readFlag, readFlag]
  split
  · exact carries_failPeeked
  · next hk =>
      rw [skipBlanks_fed hk, rest_fed, hk, next_fed hk]
      exact carries_bind readWord_feeds fun _ => carries_pair
  · next hk =>
      rw [skipBlanks_fed hk, rest_fed, hk, next_fed hk]
      exact carries_bind readWord_feeds fun _ => carries_pair
  · exact feeds_wrongType

/-- A value read as a number is a number that is taken, or no result. -/
theorem readNumeric_feeds {α : Type} {expected : String} {take : Json → Except Mismatch α} :
    Feeds (readNumeric expected take k) (readNumeric expected take k.fed) := by
  rw [readNumeric, readNumeric]
  dsimp only
  split
  · exact carries_failPeeked
  · next hk =>
      rw [skipBlanks_fed hk, rest_fed, hk, next_fed hk]
      refine carries_bind readNumber_feeds fun x => ?_
      obtain ⟨number, behind⟩ := x
      cases take number.toJson with
      | ok v => exact carries_pair
      | error m => exact carries_fail
  · next c rest _ hk =>
      rw [skipBlanks_fed hk, rest_fed, hk]
      simp only [List.cons_append]
      refine carries_ite (carries_bind readNumber_feeds fun x => ?_) feeds_wrongType
      obtain ⟨number, behind⟩ := x
      cases take number.toJson with
      | ok v => exact carries_pair
      | error m => exact carries_fail

/-- Labels are keys with texts, each read before the line feed. -/
theorem readLabels_feeds (hf : fuel ≤ fuel') :
    Feeds (readLabels fuel first k) (readLabels fuel' first k.fed) := by
  induction fuel generalizing fuel' first k with
  | zero => exact carries_fail
  | succ fuel ih =>
      obtain ⟨more, rfl⟩ := Nat.exists_eq_add_of_lt hf
      rw [readLabels, readLabels]
      refine feeds_hasKey (fun hk => ?_) fun _ => carries_pair
      dsimp only
      rw [if_pos rfl, if_pos rfl, next_fed hk]
      refine carries_bind readString_feeds fun _ => carries_bind afterColon_feeds fun _ => ?_
      refine carries_bind readText_feeds fun _ => ?_
      exact carries_bind (ih (Nat.le_add_right _ _)) fun _ => carries_pair

/-- With this fuel or more, whatever is read is read from the fed text as well. -/
structure ShapeFed (fuel : Nat) : Prop where
  shape : ∀ {fuel' depth s k}, fuel ≤ fuel' →
    Feeds (readShape fuel depth s k) (readShape fuel' depth s k.fed)
  elements : ∀ {fuel' depth s first k}, fuel ≤ fuel' →
    Feeds (readElements fuel depth s first k) (readElements fuel' depth s first k.fed)
  slot : ∀ {fuel' depth} {r : Record} {slot : Slot r.Draft} {d k}, fuel ≤ fuel' →
    Feeds (readSlot fuel depth r slot d k) (readSlot fuel' depth r slot d k.fed)
  members : ∀ {fuel' depth r seen d first k}, fuel ≤ fuel' →
    Feeds (readMembers fuel depth r seen d first k) (readMembers fuel' depth r seen d first k.fed)
  flatMembers : ∀ {fuel' depth r seen d first k}, fuel ≤ fuel' →
    Feeds (readFlatMembers fuel depth r seen d first k)
      (readFlatMembers fuel' depth r seen d first k.fed)
  slots : ∀ {fuel' depth} {r : Record} {slots : List (Slot r.Draft)} {d first k}, fuel ≤ fuel' →
    Feeds (readSlots fuel depth r slots d first k) (readSlots fuel' depth r slots d first k.fed)

/-- Without fuel nothing of a shape is read. -/
theorem shapeFed_zero : ShapeFed 0 where
  shape _ := by rw [readShape]; exact carries_fail
  elements _ := by rw [readElements]; exact carries_fail
  slot _ := by rw [readSlot]; exact carries_fail
  members _ := by rw [readMembers]; exact carries_fail
  flatMembers _ := by rw [readFlatMembers]; exact carries_fail
  slots _ := by rw [readSlots]; exact carries_fail

/-- One more unit of fuel reads a record, from an object or an array. -/
theorem ShapeFed.readRecord (ih : ShapeFed fuel) (hf : fuel ≤ fuel') {r : Record} :
    Feeds (readShape (fuel + 1) depth (.record r) k)
      (readShape (fuel' + 1) depth (.record r) k.fed) := by
  rw [Json.readShape, Json.readShape]
  dsimp only
  split
  · exact carries_failPeeked
  · next hk =>
      rw [skipBlanks_fed hk, rest_fed, hk]
      dsimp only [List.cons_append]
      refine carries_bind (enter_feeds hk) fun _ => ?_
      split
      · refine carries_bind (ih.members hf) fun _ => ?_
        exact carries_bind endObject_feeds fun _ => carries_pair
      · refine carries_bind (ih.flatMembers hf) fun read => ?_
        obtain ⟨d, others, behind⟩ := read
        rw [move_pair, move_pair, move_cursor]
        dsimp only
        split
        · exact feeds_failObject
        · exact carries_bind endObject_feeds fun _ => carries_pair
  · next hk =>
      rw [skipBlanks_fed hk, rest_fed, hk]
      dsimp only [List.cons_append]
      split
      · exact feeds_wrongType
      · refine carries_bind (enter_feeds hk) fun _ => carries_bind (ih.slots hf) fun _ => ?_
        exact carries_bind endList_feeds fun _ => carries_pair
  · exact feeds_wrongType

/-- One more unit of fuel reads a value of any shape. -/
theorem ShapeFed.readShape (ih : ShapeFed fuel) (hf : fuel ≤ fuel') {s : Shape} :
    Feeds (readShape (fuel + 1) depth s k) (readShape (fuel' + 1) depth s k.fed) := by
  cases s with
  | text =>
      rw [Json.readShape, Json.readShape]
      exact readText_feeds
  | flag =>
      rw [Json.readShape, Json.readShape]
      exact readFlag_feeds
  | count =>
      rw [Json.readShape, Json.readShape]
      exact readNumeric_feeds
  | number =>
      rw [Json.readShape, Json.readShape]
      exact readNumeric_feeds
  | labels =>
      rw [Json.readShape, Json.readShape]
      dsimp only
      split
      · exact carries_failPeeked
      · next hk =>
          rw [skipBlanks_fed hk, rest_fed, hk]
          refine carries_bind (enter_feeds hk) fun _ => ?_
          refine carries_bind (readLabels_feeds hf) fun _ => ?_
          exact carries_bind endObject_feeds fun _ => carries_pair
      · exact feeds_wrongType
  | free =>
      rw [Json.readShape, Json.readShape]
      dsimp only
      split
      · exact carries_failPeeked
      · next hk =>
          rw [skipBlanks_fed hk, rest_fed, hk]
          refine carries_bind (enter_feeds hk) fun _ => ?_
          refine carries_bind ((anyFed fuel).members hf) fun _ => ?_
          exact carries_bind endObject_feeds fun _ => carries_pair
      · exact feeds_wrongType
  | list item =>
      rw [Json.readShape, Json.readShape]
      dsimp only
      split
      · exact carries_failPeeked
      · next hk =>
          rw [skipBlanks_fed hk, rest_fed, hk]
          refine carries_bind (enter_feeds hk) fun _ => carries_bind (ih.elements hf) fun _ => ?_
          exact carries_bind endList_feeds fun _ => carries_pair
      · exact feeds_wrongType
  | record r => exact ih.readRecord hf

/-- One more unit of fuel reads one more element of a shape. -/
theorem ShapeFed.readElements (ih : ShapeFed fuel) (hf : fuel ≤ fuel') {s : Shape} :
    Feeds (readElements (fuel + 1) depth s first k)
      (readElements (fuel' + 1) depth s first k.fed) := by
  rw [Json.readElements, Json.readElements]
  refine carries_bind hasElement_feeds fun _ => carries_ite ?_ carries_pair
  exact carries_bind (ih.shape hf) fun _ => carries_bind (ih.elements hf) fun _ => carries_pair

/-- There is no value at the end of a text. -/
theorem readShape_ne_ok {s : Shape} {x : s.Value × Cursor} (hk : k.rest = []) :
    readShape fuel depth s k ≠ .ok x := by
  have blanks : k.skipBlanks.rest = [] := by rw [rest_skipBlanks, hk, List.dropWhile_nil]
  intro h
  cases fuel with
  | zero =>
      rw [readShape] at h
      cases h
  | succ fuel =>
      cases s with
      | text =>
          rw [readShape, readText, blanks] at h
          cases h
      | flag =>
          rw [readShape, readFlag, blanks] at h
          cases h
      | count =>
          rw [readShape, readNumeric, blanks] at h
          cases h
      | number =>
          rw [readShape, readNumeric, blanks] at h
          cases h
      | _ =>
          rw [readShape] at h
          dsimp only at h
          rw [blanks] at h
          cases h

/-- One more unit of fuel reads the value of a slot, which may be null. -/
theorem ShapeFed.readSlot (ih : ShapeFed fuel) (hf : fuel ≤ fuel') {r : Record}
    {slot : Slot r.Draft} {d : r.Draft} :
    Feeds (readSlot (fuel + 1) depth r slot d k) (readSlot (fuel' + 1) depth r slot d k.fed) := by
  rw [Json.readSlot, Json.readSlot]
  dsimp only
  split
  · next absent hk =>
      rw [absent, skipBlanks_fed hk, rest_fed, hk, next_fed hk]
      exact carries_bind readWord_feeds fun _ => carries_pair
  · next other =>
      cases hk : k.skipBlanks.rest with
      | nil =>
          intro x h
          obtain ⟨v, hv, -⟩ := bind_eq_ok.mp h
          exact absurd hv (readShape_ne_ok hk)
      | cons c rest =>
          rw [skipBlanks_fed hk, rest_fed, hk]
          split
          · next absent same =>
              cases same
              exact absurd hk (other _ absent)
          · exact carries_bind (ih.shape hf) fun _ => carries_pair

/-- One more unit of fuel reads one more member of a record. -/
theorem ShapeFed.readMembers (ih : ShapeFed fuel) (hf : fuel ≤ fuel') {r : Record}
    {seen : List String} {d : r.Draft} :
    Feeds (readMembers (fuel + 1) depth r seen d first k)
      (readMembers (fuel' + 1) depth r seen d first k.fed) := by
  rw [Json.readMembers, Json.readMembers]
  refine feeds_hasKey (fun hk => ?_) fun _ => carries_pair
  dsimp only
  rw [if_pos rfl, if_pos rfl, next_fed hk]
  refine carries_bind readString_feeds fun read => ?_
  obtain ⟨key, behind⟩ := read
  rw [move_pair, move_cursor]
  dsimp only
  split
  · refine carries_bind afterColon_feeds fun _ => ?_
    exact carries_bind ((skipsFed fuel).value hf) fun _ => ih.members hf
  · refine carries_ite feeds_failObject (carries_bind afterColon_feeds fun _ => ?_)
    exact carries_bind (ih.slot hf) fun _ => ih.members hf

/-- One more unit of fuel reads one more member of a record with other members beside. -/
theorem ShapeFed.readFlatMembers (ih : ShapeFed fuel) (hf : fuel ≤ fuel') {r : Record}
    {seen : List String} {d : r.Draft} :
    Feeds (readFlatMembers (fuel + 1) depth r seen d first k)
      (readFlatMembers (fuel' + 1) depth r seen d first k.fed) := by
  rw [Json.readFlatMembers, Json.readFlatMembers]
  refine feeds_hasKey (fun hk => ?_) fun _ => carries_ok
  dsimp only
  rw [if_pos rfl, if_pos rfl, next_fed hk]
  refine carries_bind readString_feeds fun read => ?_
  obtain ⟨key, behind⟩ := read
  rw [move_pair, move_cursor]
  dsimp only
  split
  · refine carries_bind afterColon_feeds fun _ => carries_bind ((anyFed fuel).value hf) fun _ => ?_
    exact carries_bind (ih.flatMembers hf) fun _ => carries_ok
  · refine carries_ite feeds_failObject (carries_bind afterColon_feeds fun _ => ?_)
    exact carries_bind (ih.slot hf) fun _ => ih.flatMembers hf

/-- One more unit of fuel reads one more item that stands for a slot. -/
theorem ShapeFed.readSlots (ih : ShapeFed fuel) (hf : fuel ≤ fuel') {r : Record}
    {slots : List (Slot r.Draft)} {d : r.Draft} :
    Feeds (readSlots (fuel + 1) depth r slots d first k)
      (readSlots (fuel' + 1) depth r slots d first k.fed) := by
  cases slots with
  | nil =>
      rw [Json.readSlots, Json.readSlots]
      exact carries_pair
  | cons slot slots =>
      rw [Json.readSlots, Json.readSlots]
      refine carries_bind hasElement_feeds fun _ => carries_ite ?_ carries_pair
      exact carries_bind (ih.slot hf) fun _ => ih.slots hf

/-- Reading a value of a shape is fed with any fuel. -/
theorem shapeFed (fuel : Nat) : ShapeFed fuel := by
  induction fuel with
  | zero => exact shapeFed_zero
  | succ fuel ih =>
      refine ⟨fun {_ _ _ _} hf => ?_, fun {_ _ _ _ _} hf => ?_, fun {_ _ _ _ _ _} hf => ?_,
        fun {_ _ _ _ _ _ _} hf => ?_, fun {_ _ _ _ _ _ _} hf => ?_,
        fun {_ _ _ _ _ _ _} hf => ?_⟩
      all_goals obtain ⟨more, rfl⟩ := Nat.exists_eq_add_of_lt hf
      · exact ih.readShape (Nat.le_add_right _ _)
      · exact ih.readElements (Nat.le_add_right _ _)
      · exact ih.readSlot (Nat.le_add_right _ _)
      · exact ih.readMembers (Nat.le_add_right _ _)
      · exact ih.readFlatMembers (Nat.le_add_right _ _)
      · exact ih.readSlots (Nat.le_add_right _ _)

/-! ### Whole texts -/

/-- At the end of a text a line feed is blank, so the text still ends there. -/
theorem atEnd_fed (h : atEnd k = .ok ()) : atEnd k.fed = .ok () := by
  rw [atEnd] at h ⊢
  split at h
  · next none =>
      rw [rest_skipBlanks] at none
      have blank := List.dropWhile_eq_nil_iff.mp none
      have dropped : k.fed.skipBlanks.rest = [] := by
        rw [rest_skipBlanks, rest_fed]
        refine List.dropWhile_eq_nil_iff.mpr fun c hc => ?_
        obtain hc | hc := List.mem_append.mp hc
        · exact blank c hc
        · exact List.mem_singleton.mp hc ▸ rfl
      rw [dropped]
  · cases h

/-- A text that is read is read alike with a line feed behind it. -/
theorem readAs_lineEnd {s : Shape} {text : String} {v : s.Value} (h : readAs s text = .ok v) :
    readAs s (text ++ "\n") = .ok v := by
  rw [readAs] at h ⊢
  obtain ⟨x, hx, h⟩ := bind_eq_ok.mp h
  obtain ⟨_, hend, h⟩ := bind_eq_ok.mp h
  have start : Cursor.start (text ++ "\n") = (Cursor.start text).fed := by
    rw [Cursor.start, Cursor.start, fed, String.toList_append]
    rfl
  have more : fuelFor text ≤ fuelFor (text ++ "\n") := by
    rw [fuelFor, fuelFor, String.length_append]
    omega
  rw [start]
  refine bind_eq_ok.mpr ⟨_, (shapeFed _).shape more x hx, ?_⟩
  exact bind_eq_ok.mpr ⟨_, atEnd_fed hend, h⟩

end EntryForm.Json
