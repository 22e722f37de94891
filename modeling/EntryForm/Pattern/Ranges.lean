import EntryForm.Pattern.Size

/-!
# Patterns — ranges

Sets of numbers as ranges, ends included, in increasing order and apart from each other: the
characters or the bytes of a class.  A class of characters is read byte by byte, as the sequences
of byte ranges that its characters are encoded as; `classSize` is the size of the machines that
do it.  The one that reads forwards shares the states that read the same, the one that reads
backwards only those that lead to the same end.
-/

namespace EntryForm.Pattern

/-- A set of numbers. -/
abbrev Ranges := List (Nat × Nat)

namespace Ranges

/-- The ranges with another one. -/
def add (low high : Nat) : Ranges → Ranges
  | [] => [(low, high)]
  | (a, b) :: rest =>
      if high + 1 < a then (low, high) :: (a, b) :: rest
      else if b + 1 < low then (a, b) :: add low high rest
      else add (min low a) (max high b) rest

/-- The numbers of either. -/
def union (r s : Ranges) : Ranges := s.foldl (fun r p => add p.1 p.2 r) r

/-- The numbers from `low` to `top` that are not among the ranges, which begin at `low` at the
earliest. -/
def gaps (top : Nat) : (low : Nat) → Ranges → Ranges
  | low, [] => if low ≤ top then [(low, top)] else []
  | low, (a, b) :: rest => (if low < a then [(low, a - 1)] else []) ++ gaps top (b + 1) rest

/-- The numbers up to `top` that are not among the ranges. -/
def complement (top : Nat) (r : Ranges) : Ranges := gaps top 0 r

/-- The numbers of both. -/
def inter (top : Nat) (r s : Ranges) : Ranges :=
  complement top (union (complement top r) (complement top s))

/-- The numbers of the first that are not of the second. -/
def diff (top : Nat) (r s : Ranges) : Ranges := inter top r (complement top s)

/-- The numbers of one of them only. -/
def symmDiff (top : Nat) (r s : Ranges) : Ranges := diff top (union r s) (inter top r s)

/-- The numbers of the ranges up to `top`, moved by a distance up, or down. -/
def shifted (low high : Nat) (up : Bool) (by_ : Nat) (r : Ranges) : Ranges :=
  r.filterMap fun (a, b) =>
    let a := max a low
    let b := min b high
    if b < a then none else some (if up then (a + by_, b + by_) else (a - by_, b - by_))

/-- The letters of ASCII in the other case as well. -/
def foldAscii (r : Ranges) : Ranges :=
  union (union r (shifted 65 90 true 32 r)) (shifted 97 122 false 32 r)

/-- The number is in the ranges. -/
def has (n : Nat) (r : Ranges) : Bool := r.any fun p => p.1 ≤ n && n ≤ p.2

/-- The characters that differ from letters of ASCII in case alone as well: beside the letters the
Kelvin sign and the long s. -/
def foldChars (r : Ranges) : Ranges :=
  let r := if has 0x212A r then add 107 107 r else r
  let r := if has 0x17F r then add 115 115 r else r
  let r := foldAscii r
  let r := if has 107 r then add 0x212A 0x212A r else r
  if has 115 r then add 0x17F 0x17F r else r

/-- No range holds surrogates alone. -/
def dropSurrogates (r : Ranges) : Ranges := r.filter fun p => !(0xD800 ≤ p.1 && p.2 ≤ 0xDFFF)

end Ranges

/-! ### Encoded characters -/

/-- The bytes of a code point. -/
def encode (n : Nat) : List Nat :=
  if n < 0x80 then [n]
  else if n < 0x800 then [0xC0 + n / 0x40, 0x80 + n % 0x40]
  else if n < 0x10000 then [0xE0 + n / 0x1000, 0x80 + n / 0x40 % 0x40, 0x80 + n % 0x40]
  else [0xF0 + n / 0x40000, 0x80 + n / 0x1000 % 0x40, 0x80 + n / 0x40 % 0x40, 0x80 + n % 0x40]

/-- Where a range of code points has to be split so that the bytes of both parts vary freely: the
last code point of the first part. -/
def splitPoint? (low high : Nat) : Option Nat :=
  let lengths := [0x7F, 0x7FF, 0xFFFF].find? fun m => low ≤ m && m < high
  if low < 0xE000 ∧ 0xD7FF < high then some 0xD7FF
  else if lengths.isSome then lengths
  else if high ≤ 0x7F then none
  else
    [0x40, 0x1000, 0x40000].findSome? fun m =>
      if low / m = high / m then none
      else if low % m ≠ 0 then some (low / m * m + m - 1)
      else if high % m ≠ m - 1 then some (high / m * m - 1)
      else none

/-- The sequences of byte ranges that a range of code points is encoded as. -/
def sequences : Nat → (low high : Nat) → List (List (Nat × Nat))
  | 0, _, _ => []
  | fuel + 1, low, high =>
      if high < low then []
      else
        match splitPoint? low high with
        | some m =>
            let above := if m = 0xD7FF then 0xE000 else m + 1
            sequences fuel low m ++ sequences fuel above high
        | none => [(encode low).zip (encode high)]

/-- The length of the longest common beginning. -/
def sharedLength : List (Nat × Nat) → List (Nat × Nat) → Nat
  | a :: as, b :: bs => if a = b then sharedLength as bs + 1 else 0
  | _, _ => 0

/-- The states of a machine that reads backwards: one for each beginning of a sequence. -/
def countBeginnings : (last : List (Nat × Nat)) → List (List (Nat × Nat)) → Nat
  | _, [] => 0
  | last, s :: rest => s.length - sharedLength last s + countBeginnings s rest

/-- The sequences by their first range: those of the one that comes first, and the others. -/
def groupHeads : List (List (Nat × Nat)) → List ((Nat × Nat) × List (List (Nat × Nat)))
  | [] => []
  | [] :: rest => groupHeads rest
  | (r :: tail) :: rest =>
      match groupHeads rest with
      | (r', tails) :: groups =>
          if r = r' then (r, tail :: tails) :: groups else (r, [tail]) :: (r', tails) :: groups
      | [] => [(r, [tail])]

/-- The transitions of a state: ranges, and the numbers of the states they lead to. -/
abbrev Transitions := List ((Nat × Nat) × Nat)

mutual

/-- The number of the state that reads the sequences, which is added unless it is known. -/
def compile : Nat → List (List (Nat × Nat)) → List Transitions → Nat × List Transitions
  | 0, _, known => (0, known)
  | fuel + 1, ss, known =>
      let (ts, known) := compileGroups fuel (groupHeads ss) known
      match known.idxOf? ts with
      | some i => (i + 1, known)
      | none => (known.length + 1, known ++ [ts])

/-- The transitions that read the groups; a sequence that ends leads to state zero. -/
def compileGroups : Nat → List ((Nat × Nat) × List (List (Nat × Nat))) → List Transitions →
    Transitions × List Transitions
  | 0, _, known => ([], known)
  | _ + 1, [], known => ([], known)
  | fuel + 1, (r, tails) :: groups, known =>
      let (target, known) :=
        if tails.all List.isEmpty then (0, known) else compile fuel tails known
      let (ts, known) := compileGroups fuel groups known
      ((r, target) :: ts, known)

end

/-- The size of the machines that read a class of bytes below 128. -/
def asciiSize (r : Ranges) : Size := .both (2 * Size.state + Size.transition * r.length)

/-- The size of the machines that read a class of characters. -/
def classSize (r : Ranges) : Size :=
  match r with
  | [] => .both Size.state
  | _ =>
      if r.all fun p => p.2 < 128 then asciiSize r
      else
        let ss := r.flatMap fun p => sequences 64 p.1 p.2
        let (_, known) := compile (2 * ss.length + 16) ss []
        let transitions := known.foldl (fun n ts => n + ts.length) 0
        { forward := Size.state * (known.length + 1) + Size.transition * transitions
          backward := Size.state * (countBeginnings [] ss + 2) + Size.branch * ss.length }

end EntryForm.Pattern
