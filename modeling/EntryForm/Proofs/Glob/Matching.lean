import Mathlib.Data.List.Induction
import Mathlib.Data.List.Infix
import EntryForm.Glob

/-!
# Proofs — Glob — matching

What tokens leave of a text, as statements about the text, and the endings of texts as bytes.

* `mem_sequence`: what a sequence of tokens leaves of some texts it leaves of one of them.
* `mem_sequence_word`: a word is what it says.
* `bytes_suffix_iff`: a text ends in a word of ASCII characters exactly if its bytes do.
* `accepts_ending`: folders, a star, a dot and a choice of words match the places that end in a dot
  and one of the words.
-/

namespace EntryForm.Glob

/-! ### Texts left over -/

/-- The suffixes listed are the texts that a text ends in. -/
theorem mem_suffixes {text rest : List UInt8} : rest ∈ suffixes text ↔ rest <:+ text := by
  induction text with
  | nil => simp [suffixes]
  | cons b text ih => rw [suffixes, List.mem_cons, ih, List.suffix_cons_iff]

/-- What follows a slash is a suffix. -/
theorem suffix_of_mem_afterSlashes {text rest : List UInt8} (h : rest ∈ afterSlashes text) :
    rest <:+ text := by
  induction text with
  | nil => cases h
  | cons b text ih =>
      rw [afterSlashes] at h
      split at h
      · obtain rfl | h := List.mem_cons.mp h
        · exact List.suffix_cons b rest
        · exact (ih h).trans (List.suffix_cons b text)
      · exact (ih h).trans (List.suffix_cons b text)

/-- What is left after a word is what follows it in the text. -/
theorem mem_after {word text rest : List UInt8} : rest ∈ after word text ↔ text = word ++ rest := by
  induction word generalizing text with
  | nil => rw [after, List.mem_singleton, List.nil_append, eq_comm]
  | cons a word ih =>
      cases text with
      | nil => simp [after]
      | cons b text =>
          rw [after]
          split
          · next h => rw [ih, h, List.cons_append, List.cons_inj_right]
          · next h => simp [Ne.symm h]

/-! ### Sequences -/

/-- What a sequence leaves over is left over from one of the texts. -/
theorem mem_sequence {tokens : List Token} {texts : List (List UInt8)} {rest : List UInt8} :
    rest ∈ sequence tokens texts ↔ ∃ text ∈ texts, rest ∈ sequence tokens [text] := by
  induction tokens generalizing texts with
  | nil => simp [sequence]
  | cons t tokens ih =>
      simp only [sequence]
      rw [ih]
      constructor
      · rintro ⟨left, hleft, hrest⟩
        obtain ⟨text, htext, hleft⟩ := List.mem_flatMap.mp (List.mem_eraseDups.mp hleft)
        refine ⟨text, htext, ih.mpr ⟨left, ?_, hrest⟩⟩
        simpa using hleft
      · rintro ⟨text, htext, hrest⟩
        obtain ⟨left, hleft, hrest⟩ := ih.mp hrest
        refine ⟨left, List.mem_eraseDups.mpr (List.mem_flatMap.mpr ⟨text, htext, ?_⟩), hrest⟩
        simpa using hleft

/-- The rest of a sequence is matched against what its first token leaves over. -/
theorem mem_sequence_cons {t : Token} {tokens : List Token} {text rest : List UInt8} :
    rest ∈ sequence (t :: tokens) [text] ↔
      ∃ left ∈ t.rests text, rest ∈ sequence tokens [left] := by
  rw [sequence, mem_sequence]
  simp

/-- The bytes of a word. -/
def bytes (word : List Char) : List UInt8 := word.flatMap String.utf8EncodeChar

/-- A sequence of literals takes the bytes of their word off the text. -/
theorem mem_sequence_word {word : List Char} {text rest : List UInt8} :
    rest ∈ sequence (word.map .literal) [text] ↔ text = bytes word ++ rest := by
  induction word generalizing text with
  | nil => simp [sequence, bytes, eq_comm]
  | cons c word ih =>
      rw [List.map_cons, mem_sequence_cons, Token.rests, bytes, List.flatMap_cons,
        List.append_assoc]
      simp only [mem_after, ih, bytes]
      exact ⟨fun ⟨_, hleft, h⟩ => h ▸ hleft, fun h => ⟨_, h, rfl⟩⟩

/-- A choice leaves over what one of its branches does, unless the branch is silent. -/
theorem mem_choices {branches : List (List Token)} {text rest : List UInt8} :
    rest ∈ choices branches text ↔
      ∃ branch ∈ branches, silent branch = false ∧ rest ∈ sequence branch [text] := by
  induction branches with
  | nil => simp [choices]
  | cons branch others ih =>
      rw [choices, List.mem_append, ih]
      cases h : silent branch <;> simp [h]

/-- A word that is not empty is not silent. -/
theorem silent_word {word : List Char} (h : word ≠ []) : silent (word.map .literal) = false := by
  cases word with
  | nil => exact absurd rfl h
  | cons c word => rfl

/-- A choice of words leaves what follows one of them. -/
theorem mem_rests_words {words : List (List Char)} (h : ∀ word ∈ words, word ≠ [])
    (hne : words ≠ []) {text rest : List UInt8} :
    rest ∈ (Token.either (words.map fun word => word.map .literal)).rests text ↔
      ∃ word ∈ words, text = bytes word ++ rest := by
  have loud : allSilent (words.map fun word => word.map .literal) = false := by
    cases words with
    | nil => exact absurd rfl hne
    | cons word others =>
        rw [List.map_cons, allSilent, silent_word (h word List.mem_cons_self)]
        rfl
  rw [Token.rests, loud, if_neg Bool.false_ne_true, mem_choices]
  constructor
  · rintro ⟨_, hbranch, -, hrest⟩
    obtain ⟨word, hword, rfl⟩ := List.mem_map.mp hbranch
    exact ⟨word, hword, mem_sequence_word.mp hrest⟩
  · rintro ⟨word, hword, htext⟩
    exact ⟨_, List.mem_map_of_mem hword, silent_word (h word hword), mem_sequence_word.mpr htext⟩

/-- Folders, any bytes, a dot and a choice of words match what ends in a dot and one of the
words. -/
theorem nil_mem_sequence_ending {words : List (List Char)} (h : ∀ word ∈ words, word ≠ [])
    (hne : words ≠ []) {text : List UInt8} :
    [] ∈ sequence [.leadingFolders, .star, .literal '.',
      .either (words.map fun word => word.map .literal)] [text] ↔
      ∃ word ∈ words, bytes ('.' :: word) <:+ text := by
  simp only [mem_sequence_cons, mem_rests_words h hne]
  simp only [Token.rests, mem_after, mem_suffixes]
  constructor
  · rintro ⟨within, hwithin, ending, hending, tail, htail, left, ⟨word, hword, hleft⟩, hnil⟩
    obtain rfl : left = [] := by simpa [sequence, eq_comm] using hnil
    have below : within <:+ text := by
      obtain rfl | hwithin := List.mem_cons.mp hwithin
      · exact List.suffix_refl _
      · exact suffix_of_mem_afterSlashes hwithin
    have spoken : bytes ('.' :: word) = ending := by
      rw [htail, hleft, List.append_nil]
      rfl
    exact ⟨word, hword, spoken ▸ hending.trans below⟩
  · -- no folder is passed over: the star takes all that stands before the dot
    rintro ⟨word, hword, hending⟩
    exact ⟨text, List.mem_cons_self, _, hending, bytes word, rfl, [],
      ⟨word, hword, (List.append_nil _).symm⟩, by simp [sequence]⟩

/-! ### Endings of texts -/

/-- A character of ASCII is one byte. -/
theorem utf8EncodeChar_of_le {c : Char} (h : c.val.toNat ≤ 127) :
    String.utf8EncodeChar c = [UInt8.ofNat c.val.toNat] :=
  if_pos h

/-- Only a character of ASCII ends in a byte of ASCII. -/
theorem le_of_getLast?_utf8EncodeChar {c : Char} {b : UInt8}
    (h : (String.utf8EncodeChar c).getLast? = some b) (hb : b.toNat ≤ 127) :
    c.val.toNat ≤ 127 := by
  by_contra hc
  have beyond (n : Nat) : ¬ (UInt8.ofNat (n % 64 + 128)).toNat ≤ 127 := by
    rw [UInt8.toNat_ofNat']
    omega
  simp only [String.utf8EncodeChar, if_neg hc] at h
  split at h
  · exact beyond _ (Option.some.inj h ▸ hb)
  · split at h
    · exact beyond _ (Option.some.inj h ▸ hb)
    · exact beyond _ (Option.some.inj h ▸ hb)

/-- A text whose bytes end in an ASCII character ends in that character. -/
theorem exists_of_bytes_concat {text : List Char} {before : List UInt8} {a : Char}
    (ha : a.val.toNat ≤ 127) (h : bytes text = before ++ bytes [a]) :
    ∃ text', text = text' ++ [a] ∧ bytes text' = before := by
  have byte {c : Char} (hc : c.val.toNat ≤ 127) : (UInt8.ofNat c.val.toNat).toNat = c.val.toNat := by
    rw [UInt8.toNat_ofNat']
    omega
  rw [show bytes [a] = [UInt8.ofNat a.val.toNat] by simp [bytes, utf8EncodeChar_of_le ha]] at h
  induction text using List.reverseRecOn with
  | nil => simp [bytes] at h
  | append_singleton text c _ =>
      rw [bytes, List.flatMap_append, List.flatMap_singleton] at h
      have last := congrArg List.getLast? h
      rw [List.getLast?_concat, List.getLast?_append_of_ne_nil _ (String.utf8EncodeChar_ne_nil)]
        at last
      -- a character that ends in a byte of ASCII is that byte alone, so it can be taken off
      have hc := le_of_getLast?_utf8EncodeChar last (by rw [byte ha]; exact ha)
      rw [utf8EncodeChar_of_le hc] at h
      obtain ⟨rest, bytesEq⟩ := List.append_inj' h rfl
      have value := congrArg UInt8.toNat (List.singleton_inj.mp bytesEq)
      rw [byte hc, byte ha] at value
      obtain rfl : c = a := Char.ext (UInt32.toNat_inj.mp value)
      exact ⟨text, rfl, rest⟩

/-- A text ends in a word of ASCII exactly if its bytes do. -/
theorem bytes_suffix_iff {word text : List Char} (hword : ∀ c ∈ word, c.val.toNat ≤ 127) :
    bytes word <:+ bytes text ↔ word <:+ text := by
  constructor
  · -- from the end on, since bytes of ASCII are told from others there
    induction word using List.reverseRecOn generalizing text with
    | nil => exact fun _ => List.nil_suffix
    | append_singleton word a ih =>
        rw [List.forall_mem_append, List.forall_mem_singleton] at hword
        rintro ⟨before, h⟩
        rw [bytes, List.flatMap_append, ← List.append_assoc] at h
        obtain ⟨text', rfl, shorter⟩ := exists_of_bytes_concat hword.2 h.symm
        obtain ⟨before', rfl⟩ := ih hword.1 ⟨before, shorter.symm⟩
        exact ⟨before', (List.append_assoc _ _ _).symm⟩
  · rintro ⟨before, rfl⟩
    exact ⟨bytes before, by simp [bytes]⟩

/-- Folders, any bytes, a dot and a choice of words: the glob of the places that end in a dot and
one of the words. -/
def ending (words : List (List Char)) : Glob :=
  ⟨[.leadingFolders, .star, .literal '.', .either (words.map fun word => word.map .literal)]⟩

/-- A glob for endings accepts the places that end in a dot and one of its words. -/
theorem accepts_ending {words : List (List Char)}
    (h : ∀ word ∈ words, word ≠ [] ∧ ∀ c ∈ word, c.val.toNat ≤ 127) (hne : words ≠ [])
    {place : String} :
    (ending words).accepts place ↔ ∃ word ∈ words, '.' :: word <:+ place.toList := by
  have matching : (ending words).accepts place ↔
      [] ∈ sequence (ending words).tokens [bytes place.toList] := by
    have tokens : (ending words).accepts place =
      (sequence (ending words).tokens [bytes place.toList]).any List.isEmpty := rfl
    simp [tokens]
  rw [matching, ending, nil_mem_sequence_ending (fun word hword => (h word hword).1) hne]
  refine exists_congr fun word => and_congr_right fun hword => bytes_suffix_iff ?_
  exact List.forall_mem_cons.mpr ⟨by decide, (h word hword).2⟩

end EntryForm.Glob
