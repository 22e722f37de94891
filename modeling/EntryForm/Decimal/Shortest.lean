/-!
# Decimal — shortest digits

A finite double is `m · 2^q`.  The reals nearer to it than to any other double form an interval
around it, with its ends when `m` is even.  `shortest` finds the decimal with the fewest digits in
that interval, and of those the nearest to the double: it looks at grids `10^e` from coarse to
fine, and on each grid at the two neighbours of the double.
-/

namespace EntryForm.Decimal

/-- The magnitude `mantissa · 2^exponent` of a double, with its sign. -/
structure Binary where
  negative : Bool
  mantissa : Nat
  exponent : Int
  deriving DecidableEq, Repr

/-- The finite double with these bits. -/
def Binary.ofBits (bits : UInt64) : Binary :=
  let b : Nat := bits.toNat
  let biased : Nat := b / Nat.pow 2 52 % Nat.pow 2 11
  let fraction : Nat := b % Nat.pow 2 52
  if biased = 0 then ⟨b ≥ Nat.pow 2 63, fraction, -1074⟩
  else ⟨b ≥ Nat.pow 2 63, fraction + Nat.pow 2 52, (biased : Int) - 1075⟩

/-- The number `digits · 10^exponent`. -/
structure Digits where
  digits : Nat
  exponent : Int
  deriving DecidableEq, Repr

/-- `a · 10^e ≤ b · 2^q`, in whole numbers. -/
def leBinary (a : Nat) (e : Int) (b : Nat) (q : Int) : Bool :=
  a * Nat.pow 10 e.toNat * Nat.pow 2 (-q).toNat ≤
    b * Nat.pow 2 q.toNat * Nat.pow 10 (-e).toNat

/-- `b · 2^q ≤ a · 10^e`, in whole numbers. -/
def geBinary (a : Nat) (e : Int) (b : Nat) (q : Int) : Bool :=
  b * Nat.pow 2 q.toNat * Nat.pow 10 (-e).toNat ≤
    a * Nat.pow 10 e.toNat * Nat.pow 2 (-q).toNat

/-- `a · 10^e` rounds to the double `m · 2^q`.  The gap below a power of two is half the gap
above it. -/
def roundsTo (m : Nat) (q : Int) (a : Nat) (e : Int) : Bool :=
  let low := if m = Nat.pow 2 52 ∧ q > -1074 then 4 * m - 1 else 4 * m - 2
  let high := 4 * m + 2
  if m % 2 = 0 then geBinary a e low (q - 2) && leBinary a e high (q - 2)
  else !leBinary a e low (q - 2) && !geBinary a e high (q - 2)

/-- The greatest `a` with `a · 10^e ≤ m · 2^q`. -/
def floorOn (m : Nat) (q e : Int) : Nat :=
  m * Nat.pow 2 q.toNat * Nat.pow 10 (-e).toNat /
    (Nat.pow 10 e.toNat * Nat.pow 2 (-q).toNat)

/-- The neighbour of `m · 2^q` on the grid `10^e` that rounds to it; of two, the nearer, and at
equal distance the upper one if `tieUp`, else the even one. -/
def onGrid? (tieUp : Bool) (m : Nat) (q e : Int) : Option Nat :=
  let a := floorOn m q e
  match a != 0 && roundsTo m q a e, roundsTo m q (a + 1) e with
  | false, false => none
  | true, false => some a
  | false, true => some (a + 1)
  | true, true =>
      -- twice the double against the middle of the two neighbours
      let above := geBinary (2 * a + 1) e (2 * m) q
      let below := leBinary (2 * a + 1) e (2 * m) q
      if above && below then
        if tieUp || a % 2 = 1 then some (a + 1) else some a
      else if above then some a else some (a + 1)

/-- Searches `fuel` grids, from `10^e` to finer ones. -/
def search (tieUp : Bool) (m : Nat) (q : Int) : Nat → Int → Digits
  | 0, _ => ⟨0, 0⟩
  | fuel + 1, e =>
      match onGrid? tieUp m q e with
      | some a => ⟨a, e⟩
      | none => search tieUp m q fuel (e - 1)

/-- The shortest decimal that rounds to `m · 2^q`; zero for zero. -/
def shortest (tieUp : Bool) (m : Nat) (q : Int) : Digits :=
  if m = 0 then ⟨0, 0⟩
  else search tieUp m q 24 ((m.log2 + q) * 30103 / 100000 + 2)

end EntryForm.Decimal
