import Mathlib.Data.List.TakeWhile
import EntryForm.Yaml.Printer
import EntryForm.Proofs.Decimal.Word

/-!
# Proofs — Yaml — how a written value ends

The writer ends the last line of a text, unless the last value is a literal block that ends it
itself.  What stands before the line feed is the end of the innermost value written last
(`Json.last`): a word or a bracket, a quote, or the last character of a text that is not quoted.
Such a text is *sealed* if its last character is visible, with or without a line feed behind it
(`isSealed`).

`trimEnd_write`: dropping the blanks at the end of a written value and adding a line feed gives
the same text exactly if the value ends sealed.
-/

namespace EntryForm

namespace Json

mutual

/-- The innermost value that is written last within a value. -/
def last : Json → Json
  | .null => .null
  | .bool b => .bool b
  | .int n => .int n
  | .float x => .float x
  | .str text => .str text
  | .arr items => (lastOfItems? items).getD (.arr [])
  | .obj entries => (lastOfEntries? entries).getD (.obj [])

def lastOfItems? : List Json → Option Json
  | [] => none
  | v :: rest => some ((lastOfItems? rest).getD v.last)

def lastOfEntries? : List (String × Json) → Option Json
  | [] => none
  | (_, v) :: rest => some ((lastOfEntries? rest).getD v.last)

end

/-- The value has no parts. -/
def IsLeaf : Json → Prop
  | .arr (_ :: _) | .obj (_ :: _) => False
  | _ => True

mutual

/-- What is written last has no parts. -/
theorem isLeaf_last : ∀ v : Json, v.last.IsLeaf
  | .null | .bool _ | .int _ | .float _ | .str _ => trivial
  | .arr items => by
      rw [last]
      cases h : lastOfItems? items with
      | none => trivial
      | some w => exact isLeaf_lastOfItems? items w h
  | .obj entries => by
      rw [last]
      cases h : lastOfEntries? entries with
      | none => trivial
      | some w => exact isLeaf_lastOfEntries? entries w h

theorem isLeaf_lastOfItems? : ∀ (items : List Json) (w : Json),
    lastOfItems? items = some w → w.IsLeaf
  | [], _, h => by cases h
  | v :: rest, w, h => by
      rw [lastOfItems?] at h
      obtain rfl := Option.some.inj h
      cases hr : lastOfItems? rest with
      | none => exact isLeaf_last v
      | some u => exact isLeaf_lastOfItems? rest u hr

theorem isLeaf_lastOfEntries? : ∀ (entries : List (String × Json)) (w : Json),
    lastOfEntries? entries = some w → w.IsLeaf
  | [], _, h => by cases h
  | (_, v) :: rest, w, h => by
      rw [lastOfEntries?] at h
      obtain rfl := Option.some.inj h
      cases hr : lastOfEntries? rest with
      | none => exact isLeaf_last v
      | some u => exact isLeaf_lastOfEntries? rest u hr

end

end Json

namespace Yaml

mutual

/-- What is written last is the last value. -/
theorem writeValue_last : ∀ (v : Json) (indent : Option Nat) (entry : Bool) (s : Sheet),
    ∃ i e s', writeValue indent entry v s = writeValue i e v.last s'
  | .null, i, e, s | .bool _, i, e, s | .int _, i, e, s | .float _, i, e, s | .str _, i, e, s
  | .arr [], i, e, s | .obj [], i, e, s => ⟨i, e, s, rfl⟩
  | .arr (v :: rest), _, _, _ => by
      rw [writeValue, Json.last, Json.lastOfItems?, Option.getD_some]
      · exact writeItems_last (v :: rest) rfl _ _
      · nofun
  | .obj (e :: rest), _, _, _ => by
      rw [writeValue, Json.last, Json.lastOfEntries?, Option.getD_some]
      · exact writeEntries_last (e :: rest) rfl _ _
      · nofun

/-- The last of some items is written last. -/
theorem writeItems_last : ∀ (items : List Json) {w : Json}, Json.lastOfItems? items = some w →
    ∀ (indent : Nat) (s : Sheet), ∃ i e s', writeItems indent items s = writeValue i e w s'
  | [], _, h, _, _ => by cases h
  | [v], _, h, _, _ => by
      obtain rfl := Option.some.inj h
      rw [writeItems, writeItems]
      exact writeValue_last v _ _ _
  | v :: w :: rest, _, h, _, _ => by
      rw [Json.lastOfItems?, Json.lastOfItems?, Option.getD_some] at h
      rw [writeItems]
      exact writeItems_last (w :: rest) h _ _

/-- The value of the last of some entries is written last. -/
theorem writeEntries_last : ∀ (entries : List (String × Json)) {w : Json},
    Json.lastOfEntries? entries = some w →
    ∀ (indent : Nat) (s : Sheet), ∃ i e s', writeEntries indent entries s = writeValue i e w s'
  | [], _, h, _, _ => by cases h
  | [(_, v)], _, h, _, _ => by
      obtain rfl := Option.some.inj h
      rw [writeEntries, writeEntries]
      exact writeValue_last v _ _ _
  | (_, v) :: (k, w) :: rest, _, h, _, _ => by
      rw [Json.lastOfEntries?, Json.lastOfEntries?, Option.getD_some] at h
      rw [writeEntries]
      exact writeEntries_last ((k, w) :: rest) h _ _

end

/-! ### Sheets -/

namespace Sheet

theorem puts_eq (cs : List Char) (s : Sheet) :
    s.puts cs = { s with written := cs.reverse ++ s.written, column := s.column + cs.length } := by
  induction cs generalizing s with
  | nil => rfl
  | cons c cs ih =>
      rw [puts, List.foldl_cons, ← puts, ih, put]
      simp only [List.reverse_cons, List.append_assoc, List.singleton_append, List.length_cons]
      rw [Nat.add_right_comm, Nat.add_assoc]

/-- The sheet with its last line ended. -/
def ended (s : Sheet) : Sheet := s.startLine 0

/-- A line that is not fresh is ended by a line feed. -/
theorem written_ended (s : Sheet) (h : s.fresh = false) : s.ended.written = '\n' :: s.written := by
  rw [ended, startLine, padTo, puts_eq]
  simp [h, putBreak]

/-- A fresh line is ended as it is. -/
theorem written_ended_fresh (s : Sheet) (h : s.fresh = true) (hc : s.column = 0)
    (ho : s.open_ = true) : s.ended.written = s.written := by
  rw [ended, startLine, padTo, puts_eq]
  simp [h, hc, ho]

end Sheet

/-! ### Blanks at the end -/

/-- There is no blank at the end of a text; its characters are given last first. -/
def EndsVisibly (written : List Char) : Prop := written.dropWhile Text.isBlankChar = written

/-- Without the blanks at its end and with a line feed, a text is what it was; its characters are
given last first. -/
def Settled (written : List Char) : Prop := '\n' :: written.dropWhile Text.isBlankChar = written

/-- A text ends visibly exactly if its last character is not blank. -/
theorem endsVisibly_cons {c : Char} {cs : List Char} :
    EndsVisibly (c :: cs) ↔ Text.isBlankChar c = false := by
  rw [EndsVisibly, List.dropWhile_eq_self_iff]
  simp

/-- A text with a line feed is settled exactly if it ends visibly before it. -/
theorem settled_lineFeed {cs : List Char} : Settled ('\n' :: cs) ↔ EndsVisibly cs := by
  rw [Settled, List.dropWhile_cons_of_pos (by decide), List.cons.injEq, eq_self, true_and]
  rfl

/-- A text without a line feed at its end is not settled. -/
theorem not_settled_cons {c : Char} {cs : List Char} (h : c ≠ '\n') : ¬ Settled (c :: cs) :=
  fun settled => h (List.cons.inj settled).1.symm

/-- Trimming a sheet and adding a line feed leaves it as it was exactly if it is settled. -/
theorem trimEnd_eq_iff {s : Sheet} :
    Text.trimEnd s.text ++ "\n" = s.text ↔ Settled s.written := by
  rw [Settled, ← String.toList_inj, Text.trimEnd, Text.dropEndBlanks, Sheet.text,
    String.toList_append, String.toList_ofList, String.toList_ofList, List.reverse_reverse,
    ← List.reverse_inj]
  simp

/-! ### Texts -/

/-- A text that is written as it is ends in a visible character, behind which one line feed may
stand; its characters are given last first. -/
def sealsLast : List Char → Bool
  | [] => false
  | c :: rest =>
      if c = '\n' then nextSatisfies (fun d => !Text.isBlankChar d) rest else !Text.isBlankChar c

theorem sealsLast_cons {c : Char} {cs : List Char} (h : c ≠ '\n') :
    sealsLast (c :: cs) = !Text.isBlankChar c := if_neg h

theorem sealsLast_lineFeed (c : Char) (cs : List Char) :
    sealsLast ('\n' :: c :: cs) = !Text.isBlankChar c := by
  rw [sealsLast, if_pos rfl, nextSatisfies]

/-- What is written of the text ends in a visible character: in a quote, or in one of its own. -/
def isSealed (text : String) : Bool :=
  match Style.ofText text with
  | .single | .double => true
  | _ => sealsLast text.toList.reverse

theorem isBlankChar_of_isBreakChar {c : Char} (h : isBreakChar c = true) :
    Text.isBlankChar c = true := by
  simp only [isBreakChar, Bool.or_eq_true, beq_iff_eq] at h
  obtain (((rfl | rfl) | code) | code) | code := h
  · rfl
  · rfl
  all_goals
    rw [Text.isBlankChar, code]
    rfl

namespace Sheet

/-- Text behind a mark is settled exactly if its last character is visible. -/
theorem settled_close {s : Sheet} (cs : List Char) (c : Char) :
    Settled (s.close (cs ++ [c])).ended.written ↔ Text.isBlankChar c = false := by
  rw [written_ended _ rfl, settled_lineFeed, close, puts_eq, List.reverse_append,
    List.reverse_singleton, List.append_assoc, List.singleton_append]
  exact endsVisibly_cons

/-- A mark is settled exactly if its last character is visible. -/
theorem settled_mark {s : Sheet} (cs : List Char) (c : Char) :
    Settled (s.mark (cs ++ [c])).ended.written ↔ Text.isBlankChar c = false :=
  settled_close cs c

theorem settled_mark_of_visible {s : Sheet} {cs : List Char} (hne : cs ≠ [])
    (h : ∀ c ∈ cs, Text.isBlankChar c = false) : Settled (s.mark cs).ended.written := by
  rw [← List.dropLast_concat_getLast hne]
  exact (settled_mark _ _).mpr (h _ (List.getLast_mem hne))

/-! ### Literal blocks -/

variable {indent : Nat} {written : Char → List Char} {broken : Bool} {s : Sheet}

theorem open_putLines {cs : List Char} (h : s.open_ = true) :
    (putLines indent written broken cs s).1.open_ = true := by
  induction cs generalizing broken s with
  | nil => exact h
  | cons c cs ih =>
      rw [putLines]
      split
      · exact ih h
      · refine ih ?_
        rw [puts_eq]
        cases broken with
        | true => rfl
        | false => exact h

/-- Lines are put one after another. -/
theorem putLines_append (xs ys : List Char) :
    putLines indent written broken (xs ++ ys) s =
      putLines indent written (putLines indent written broken xs s).2 ys
        (putLines indent written broken xs s).1 := by
  induction xs generalizing broken s with
  | nil => rfl
  | cons c xs ih =>
      rw [List.cons_append, putLines, putLines]
      split
      · exact ih
      · exact ih

/-- A break at the end of lines leaves a fresh line. -/
theorem putLines_break {xs : List Char} {c : Char} (hc : isBreakChar c = true) :
    (putLines indent written broken (xs ++ [c]) s).1 =
      { (putLines indent written broken xs s).1.putBreak c with fresh := true } := by
  rw [putLines_append, putLines, if_pos hc]
  rfl

/-- Another character at the end of lines leaves a line that is not fresh. -/
theorem putLines_char {xs : List Char} {c : Char} (hc : isBreakChar c = false) :
    ∃ s' : Sheet, (putLines indent (fun c => [c]) broken (xs ++ [c]) s).1 =
      { s'.put c with fresh := false } := by
  rw [putLines_append, putLines, if_neg (Bool.eq_false_iff.mp hc)]
  exact ⟨_, rfl⟩

/-- A character that is written as it is stands at the end. -/
theorem written_putLines {xs : List Char} {c : Char} :
    ∃ rest, (putLines indent (fun c => [c]) broken (xs ++ [c]) s).1.written = c :: rest := by
  cases hc : isBreakChar c with
  | true => exact ⟨_, congrArg Sheet.written (putLines_break hc)⟩
  | false =>
      obtain ⟨s', hs⟩ := putLines_char hc
      exact ⟨_, congrArg Sheet.written hs⟩

theorem written_ended_putBreak {c : Char} (h : s.open_ = true) :
    ({ s.putBreak c with fresh := true } : Sheet).ended.written = c :: s.written :=
  written_ended_fresh _ rfl rfl h

/-- The sheet behind the header of a literal block. -/
def literalHeader (s : Sheet) (cs : List Char) : Sheet :=
  { ((s.mark ['|']).close (literalHints cs)).putBreak '\n' with open_ := true, fresh := true }

theorem putLiteral_eq (cs : List Char) : s.putLiteral indent cs =
    (putLines indent (fun c => [c]) true cs (s.literalHeader cs)).1 := rfl

/-- A block of the characters `xs` and one that is no break. -/
theorem settled_putLines_char {xs : List Char} {c : Char} (hc : isBreakChar c = false) :
    Settled (putLines indent (fun c => [c]) broken (xs ++ [c]) s).1.ended.written ↔
      sealsLast (c :: xs.reverse) = true := by
  have feed : c ≠ '\n' := by
    rintro rfl
    cases hc
  obtain ⟨s', hs⟩ : ∃ s' : Sheet, (putLines indent _ broken (xs ++ [c]) s).1 = _ :=
    putLines_char hc
  rw [hs, written_ended _ rfl, settled_lineFeed, put, endsVisibly_cons, sealsLast_cons feed,
    Bool.not_eq_true']

/-- A block of the characters `xs` and a break. -/
theorem settled_putLines_break {xs : List Char} {c : Char} (hc : isBreakChar c = true)
    (opened : s.open_ = true) {header : List Char} (hs : s.written = '\n' :: header) :
    Settled (putLines indent (fun c => [c]) broken (xs ++ [c]) s).1.ended.written ↔
      sealsLast (c :: xs.reverse) = true := by
  rw [putLines_break hc, written_ended_putBreak (open_putLines opened)]
  by_cases feed : c = '\n'
  · subst feed
    rw [settled_lineFeed]
    rcases List.eq_nil_or_concat xs with rfl | ⟨ys, d, rfl⟩
    · rw [putLines, hs, endsVisibly_cons]
      decide
    · rw [List.concat_eq_append]
      obtain ⟨rest, hrest⟩ :
          ∃ rest, (putLines indent _ broken (ys ++ [d]) s).1.written = _ := written_putLines
      rw [hrest, endsVisibly_cons, List.reverse_append, List.reverse_singleton,
        List.singleton_append, sealsLast_lineFeed, Bool.not_eq_true']
  · refine iff_of_false (not_settled_cons feed) ?_
    rw [sealsLast_cons feed, isBlankChar_of_isBreakChar hc]
    nofun

/-- A literal block is settled exactly if it ends in a visible character, with one break at most
behind it. -/
theorem settled_putLiteral {xs : List Char} {c : Char} :
    Settled (s.putLiteral indent (xs ++ [c])).ended.written ↔
      sealsLast (c :: xs.reverse) = true := by
  rw [putLiteral_eq]
  cases hc : isBreakChar c with
  | true => exact settled_putLines_break hc rfl rfl
  | false => exact settled_putLines_char hc

end Sheet

/-! ### Scalars -/

/-- A text that is written plain has no line feed. -/
theorem not_mem_of_plain {text : String} (h : Style.ofText text = .plain) :
    '\n' ∉ text.toList := by
  intro feed
  rw [Style.ofText] at h
  simp only [List.contains_iff_mem.mpr feed, if_true] at h
  split at h <;> cases h

/-- The empty text is quoted. -/
theorem ne_nil_of_style {text : String} (h : Style.ofText text ≠ .single) : text.toList ≠ [] := by
  intro empty
  obtain rfl := String.toList_eq_nil_iff.mp empty
  exact h (by decide)

/-- No text is written folded. -/
theorem ofText_ne_folded (text : String) : Style.ofText text ≠ .folded := by
  rw [Style.ofText]
  repeat' split
  all_goals nofun

/-- A text is settled exactly if what is written of it ends in a visible character. -/
theorem settled_putText {s : Sheet} {indent : Nat} {text : String} :
    Settled (s.putText indent text).ended.written ↔ isSealed text = true := by
  rw [Sheet.putText, isSealed]
  cases style : Style.ofText text with
  | plain =>
      have kept := not_mem_of_plain style
      dsimp only
      rcases List.eq_nil_or_concat text.toList with empty | ⟨xs, c, htext⟩
      · exact absurd empty (ne_nil_of_style (style ▸ nofun))
      · rw [List.concat_eq_append] at htext
        rw [htext] at kept ⊢
        rw [Sheet.settled_mark, List.reverse_append, List.reverse_singleton, List.singleton_append,
          sealsLast_cons fun feed => kept (feed ▸ List.mem_append_right _ List.mem_cons_self),
          Bool.not_eq_true']
  | literal =>
      dsimp only
      rcases List.eq_nil_or_concat text.toList with empty | ⟨xs, c, htext⟩
      · exact absurd empty (ne_nil_of_style (style ▸ nofun))
      · rw [htext, List.concat_eq_append, Sheet.settled_putLiteral, List.reverse_append,
          List.reverse_singleton, List.singleton_append]
  | folded => exact absurd style (ofText_ne_folded text)
  | single => exact iff_of_true ((Sheet.settled_close [] '\'').mpr (by decide)) rfl
  | double => exact iff_of_true ((Sheet.settled_close _ '"').mpr (by decide)) rfl

/-! ### Values -/

/-- What is written of a value without parts ends in a visible character. -/
def isSealedLeaf : Json → Bool
  | .str text => isSealed text
  | _ => true

/-- What is written last of a value ends in a visible character. -/
def endsSealed (v : Json) : Bool := isSealedLeaf v.last

/-- A value without parts is settled exactly if it ends in a visible character. -/
theorem settled_writeValue {indent : Option Nat} {entry : Bool} {v : Json} (leaf : v.IsLeaf)
    {s : Sheet} :
    Settled (writeValue indent entry v s).ended.written ↔ isSealedLeaf v = true := by
  have word {text : String} (h : Text.IsWord text) :
      Settled (s.mark text.toList).ended.written ↔ true = true :=
    iff_of_true (Sheet.settled_mark_of_visible h.ne_nil h.solid) rfl
  match v with
  | .null =>
      rw [writeValue]
      exact word (by decide)
  | .bool b =>
      rw [writeValue]
      exact word (by cases b <;> decide)
  | .int n =>
      rw [writeValue]
      exact word (Text.isWord_toString_int n)
  | .float x =>
      rw [writeValue]
      exact word (Decimal.write_isWord (by decide) (by decide) x)
  | .str text =>
      rw [writeValue]
      exact settled_putText
  | .arr [] =>
      rw [writeValue]
      exact iff_of_true ((Sheet.settled_mark ['['] ']').mpr rfl) rfl
  | .obj [] =>
      rw [writeValue]
      exact iff_of_true ((Sheet.settled_mark ['\x7b'] '\x7d').mpr rfl) rfl

/-- Without the blanks at its end and with a line feed, the text of a value is what it was exactly
if what is written last ends in a visible character. -/
theorem trimEnd_write (v : Json) :
    Text.trimEnd (write v) ++ "\n" = write v ↔ endsSealed v = true := by
  obtain ⟨indent, entry, s, last⟩ := writeValue_last v none false {}
  rw [write, trimEnd_eq_iff, ← Sheet.ended, last]
  exact settled_writeValue v.isLeaf_last

end Yaml

end EntryForm
