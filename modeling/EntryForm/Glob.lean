/-!
# Globs

A glob is a pattern of file places.  It is matched against the bytes of a place as a whole, and a
slash is matched like any other byte, unless the pattern speaks of folders.  `Token.rests` lists
what a token can leave of a text, and `Glob.accepts` asks whether the tokens of a glob can leave
nothing.
-/

namespace EntryForm

namespace Glob

/-- A piece of a glob. -/
inductive Token where
  /-- The bytes of a character. -/
  | literal (c : Char)
  /-- Any byte. -/
  | any
  /-- Any bytes. -/
  | star
  /-- Folders at the start, each with its slash, or none. -/
  | leadingFolders
  /-- A slash, or folders between two slashes. -/
  | innerFolders
  /-- A slash and any bytes after it. -/
  | trailingFolders
  /-- A byte of a class, or one that is not of it. -/
  | oneOf (negated : Bool) (ranges : List (Char × Char))
  /-- Any of some sequences. -/
  | either (branches : List (List Token))

/-! ### Texts left over -/

/-- The text and all texts that lack some of its first bytes. -/
def suffixes : List UInt8 → List (List UInt8)
  | [] => [[]]
  | b :: rest => (b :: rest) :: suffixes rest

/-- The slash. -/
def slash : UInt8 := 0x2F

/-- What follows some slash of the text. -/
def afterSlashes : List UInt8 → List (List UInt8)
  | [] => []
  | b :: rest => if b = slash then rest :: afterSlashes rest else afterSlashes rest

/-- The text without the bytes that it must begin with. -/
def after : List UInt8 → List UInt8 → List (List UInt8)
  | [], text => [text]
  | _ :: _, [] => []
  | a :: as, b :: rest => if a = b then after as rest else []

/-! ### Classes -/

/-- The ranges of bytes of a range of characters.  A character beyond ASCII stands for each of its
bytes, so a range goes from the last byte of its first character to the first byte of its last. -/
def byteRanges (r : Char × Char) : List (UInt8 × UInt8) :=
  let single := fun b : UInt8 => (b, b)
  let low := String.utf8EncodeChar r.1
  let high := String.utf8EncodeChar r.2
  if r.1 = r.2 then low.map single
  else
    low.dropLast.map single ++ [(low.getLastD 0, high.headD 0)] ++ high.tail.map single

/-- The byte is in one of the ranges of a class. -/
def inClass (ranges : List (Char × Char)) (b : UInt8) : Bool :=
  (ranges.flatMap byteRanges).any fun r => r.1 ≤ b && b ≤ r.2

/-! ### Tokens -/

mutual

/-- The token says nothing: it offers only sequences that say nothing. -/
def Token.isSilent : Token → Bool
  | .either branches => allSilent branches
  | _ => false

/-- Every token says nothing. -/
def silent : List Token → Bool
  | [] => true
  | t :: rest => t.isSilent && silent rest

/-- Every sequence says nothing. -/
def allSilent : List (List Token) → Bool
  | [] => true
  | branch :: rest => silent branch && allSilent rest

end

mutual

/-- What a token can leave of a text.  A sequence that says nothing is no choice, unless there is
no other. -/
def Token.rests : Token → List UInt8 → List (List UInt8)
  | .literal c, text => after (String.utf8EncodeChar c) text
  | .any, text =>
      match text with
      | [] => []
      | _ :: rest => [rest]
  | .star, text => suffixes text
  | .leadingFolders, text => text :: afterSlashes text
  | .innerFolders, text =>
      (after [slash] text).flatMap fun rest => rest :: afterSlashes rest
  | .trailingFolders, text => (after [slash] text).flatMap suffixes
  | .oneOf negated ranges, text =>
      match text with
      | [] => []
      | b :: rest => if inClass ranges b != negated then [rest] else []
  | .either branches, text => if allSilent branches then [text] else choices branches text

/-- What a sequence of tokens can leave of some texts. -/
def sequence : List Token → List (List UInt8) → List (List UInt8)
  | [], texts => texts
  | t :: rest, texts => sequence rest (texts.flatMap t.rests).eraseDups

/-- What some sequence that says something can leave of a text. -/
def choices : List (List Token) → List UInt8 → List (List UInt8)
  | [], _ => []
  | branch :: others, text =>
      (if silent branch then [] else sequence branch [text]) ++ choices others text

end

end Glob

/-- A pattern of file places. -/
structure Glob where
  tokens : List Glob.Token

namespace Glob

/-- The glob matches a text.  Folders at the start and nothing else match every text. -/
def matchesBytes (g : Glob) (text : List UInt8) : Bool :=
  match g.tokens with
  | [.leadingFolders] => true
  | tokens => (sequence tokens [text]).any List.isEmpty

/-- The glob matches a place. -/
def accepts (g : Glob) (place : String) : Bool :=
  g.matchesBytes (place.toList.flatMap String.utf8EncodeChar)

end Glob

end EntryForm
