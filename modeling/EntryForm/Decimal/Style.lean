import EntryForm.Decimal.Shortest

/-!
# Decimal — how a number is written

A `Style` holds the decisions a format takes about a floating point number: where it turns to an
exponent, whether a whole number keeps a point, and the texts of infinities and of not-a-number.
The digits are the shortest ones that read back.
-/

namespace EntryForm.Decimal

/-- The decisions of a format. -/
structure Style where
  /-- With `some (low, high)` a number below `10^low` or from `10^high` on has an exponent; with
  `none` no number has. -/
  exponents : Option (Int × Int)
  /-- A positive exponent has a plus sign. -/
  plus : Bool
  /-- A whole number without an exponent ends in `.0`. -/
  point : Bool
  /-- Of two equally near decimals the upper one is written, otherwise the even one. -/
  tieUp : Bool
  infinity : String
  notANumber : String

/-- In JSON text. -/
def Style.json : Style := ⟨some (-5, 16), true, true, false, "null", "null"⟩

/-- In YAML text. -/
def Style.yaml : Style := ⟨some (-5, 16), false, true, false, ".inf", ".nan"⟩

/-- In the message of a violation. -/
def Style.message : Style := ⟨none, false, false, true, "inf", "NaN"⟩

/-- In the message about a YAML value of the wrong type. -/
def Style.mismatch : Style := ⟨none, false, true, true, "inf", "NaN"⟩

/-- `n` zeros. -/
def zeros (n : Nat) : String := String.ofList (List.replicate n '0')

/-- Without an exponent. -/
def positional (s : Style) (d : Digits) : String :=
  let text := toString d.digits
  let n := text.length
  if d.exponent ≥ 0 then text ++ zeros d.exponent.toNat ++ (if s.point then ".0" else "")
  else
    let places := (-d.exponent).toNat
    if places < n then
      String.ofList (text.toList.take (n - places)) ++ "." ++
        String.ofList (text.toList.drop (n - places))
    else "0." ++ zeros (places - n) ++ text

/-- With an exponent, one digit before the point. -/
def scientific (s : Style) (d : Digits) : String :=
  let text := toString d.digits
  let power := d.exponent + text.length - 1
  let fraction := text.toList.drop 1
  String.ofList (text.toList.take 1) ++
    (if fraction.isEmpty then "" else "." ++ String.ofList fraction) ++
    "e" ++ (if s.plus ∧ power ≥ 0 then "+" else "") ++ toString power

/-- The text of a finite magnitude. -/
def writeDigits (s : Style) (d : Digits) : String :=
  let magnitude := d.exponent + (toString d.digits).length
  match s.exponents with
  | none => positional s d
  | some (low, high) =>
      if d.digits = 0 ∨ (low < magnitude ∧ magnitude ≤ high) then positional s d
      else scientific s d

/-- The text of a floating point number. -/
def write (s : Style) (x : Float) : String :=
  let b := Binary.ofBits x.toBits
  let sign := if b.negative then "-" else ""
  if x.isNaN then s.notANumber
  else if x.isInf then sign ++ s.infinity
  else sign ++ writeDigits s (shortest s.tieUp b.mantissa b.exponent)

end EntryForm.Decimal
