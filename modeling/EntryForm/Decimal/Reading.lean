/-!
# Decimal — reading

`nearest` is the double nearest to a decimal, an even mantissa deciding ties.  `scaled` is the
quicker rule of JSON text: the digits as a double, then one multiplication or division by an exact
power of ten, each rounded; it refuses a number that is too large.
-/

namespace EntryForm.Decimal

/-- The double nearest to `digits · 10^exponent`; beyond the range, zero or infinity. -/
def nearest (digits : Nat) (exponent : Int) : Float :=
  let magnitude := exponent + (toString digits).length
  if digits = 0 ∨ magnitude < -330 then 0.0
  else if magnitude > 310 then 1.0 / 0.0
  else if exponent ≥ 0 then Float.ofScientific digits false exponent.toNat
  else Float.ofScientific digits true (-exponent).toNat

/-- `10^n` as a double, for `n` up to 308. -/
def powerOfTen (n : Nat) : Float := Float.ofScientific 1 false n

/-- `x · 10^e` by steps of at most `10^308`; `none` when it is too large. -/
def scaledBy : Nat → Float → Int → Option Float
  | 0, x, _ => some x
  | fuel + 1, x, e =>
      if e.natAbs ≤ 308 then
        if e ≥ 0 then
          let y := x * powerOfTen e.toNat
          if y.isInf then none else some y
        else some (x / powerOfTen (-e).toNat)
      else if x == 0.0 then some x
      else if e ≥ 0 then none
      else scaledBy fuel (x / powerOfTen 308) (e + 308)

/-- `digits · 10^exponent`, each step rounded; `none` when it is too large. -/
def scaled (digits : UInt64) (exponent : Int) : Option Float :=
  scaledBy (exponent.natAbs / 308 + 2) digits.toFloat exponent

end EntryForm.Decimal
