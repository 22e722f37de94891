import EntryForm.Yaml.Token
import EntryForm.Decimal.Reading
import EntryForm.Wire.Mismatch

/-!
# YAML — what a scalar means

A plain scalar without a tag may be null, a truth value, an integer in one of four bases or a
floating point number, by its text; else, and in quotes or as a block, it is a text.  A tag of the
standard asks for one of those meanings.  Digits that begin with a superfluous zero are a text.
-/

namespace EntryForm.Yaml

/-- The meaning of a scalar. -/
inductive Meaning where
  | null
  | bool (value : Bool)
  | int (value : Int)
  | float (value : Float)
  | text (value : String)

namespace Meaning

/-- The text stands for null. -/
def isNull (s : String) : Bool := s == "null" || s == "Null" || s == "NULL" || s == "~"

/-- The truth value a text stands for. -/
def bool? (s : String) : Option Bool :=
  if s == "true" || s == "True" || s == "TRUE" then some true
  else if s == "false" || s == "False" || s == "FALSE" then some false
  else none

/-- The value of a digit in a base up to sixteen. -/
def digit? (base : Nat) (c : Char) : Option Nat :=
  let value :=
    if c.isDigit then some (c.toNat - 48)
    else if 'a' ≤ c ∧ c ≤ 'f' then some (c.toNat - 87)
    else if 'A' ≤ c ∧ c ≤ 'F' then some (c.toNat - 55)
    else none
  value.filter (· < base)

/-- The value of digits, of which there is at least one. -/
def digits? (base : Nat) (cs : List Char) : Option Nat :=
  if cs.isEmpty then none
  else cs.foldlM (fun n c => (digit? base c).map (n * base + ·)) 0

/-- The text after a mark of base. -/
def based? (cs : List Char) : Option Nat :=
  match cs with
  | '0' :: 'x' :: rest => digits? 16 rest
  | '0' :: 'o' :: rest => digits? 8 rest
  | '0' :: 'b' :: rest => digits? 2 rest
  | _ => none

/-- Digits, more than one, of which the first is zero. -/
def hasSpareZero (cs : List Char) : Bool :=
  match cs with
  | '0' :: d :: rest => (d :: rest).all Char.isDigit
  | _ => false

/-- The natural number a text without a sign stands for. -/
def natural? (cs : List Char) : Option Nat :=
  (based? cs).or (if hasSpareZero cs then none else digits? 10 cs)

/-- The integer a text stands for, of at most 128 bits. -/
def int? (s : String) : Option Int :=
  let n : Option Int :=
    match s.toList with
    | '-' :: cs => (natural? cs).map fun n => -(n : Int)
    | '+' :: cs => (natural? cs).map fun n => (n : Int)
    | cs => (natural? cs).map fun n => (n : Int)
  n.filter fun n => -Int.pow 2 127 ≤ n ∧ n < Int.pow 2 128

/-- The exponent after an `e`: digits, with or without a sign. -/
def exponent? : List Char → Option Int
  | '-' :: cs => (digits? 10 cs).map fun n => -(n : Int)
  | '+' :: cs => (digits? 10 cs).map fun n => (n : Int)
  | cs => (digits? 10 cs).map fun n => (n : Int)

/-- The finite number a decimal without a sign stands for: digits with or without a point, and
maybe an exponent. -/
def decimal? (cs : List Char) : Option Float :=
  let whole := cs.takeWhile Char.isDigit
  let afterWhole := cs.dropWhile Char.isDigit
  let (fraction, rest) : List Char × List Char :=
    match afterWhole with
    | '.' :: cs => (cs.takeWhile Char.isDigit, cs.dropWhile Char.isDigit)
    | _ => ([], afterWhole)
  let exponent : Option Int :=
    match rest with
    | [] => some 0
    | 'e' :: cs | 'E' :: cs => exponent? cs
    | _ => none
  match digits? 10 (whole ++ fraction), exponent with
  | some n, some e =>
      let x := Decimal.nearest n (e - fraction.length)
      if x.isFinite then some x else none
  | _, _ => none

/-- The floating point number a text stands for. -/
def float? (s : String) : Option Float :=
  let infinity : Float := 1.0 / 0.0
  if s == ".nan" || s == ".NaN" || s == ".NAN" then some (0.0 / 0.0)
  else
    match s.toList with
    | '-' :: cs =>
        if cs == ".inf".toList || cs == ".Inf".toList || cs == ".INF".toList then some (-infinity)
        else (decimal? cs).map (-·)
    | cs =>
        let cs := match cs with
          | '+' :: rest => rest
          | _ => cs
        if cs == ".inf".toList || cs == ".Inf".toList || cs == ".INF".toList then some infinity
        else decimal? cs

/-- Digits after a sign that has a superfluous zero. -/
def isSpareZero (s : String) : Bool :=
  match s.toList with
  | '-' :: cs | '+' :: cs => hasSpareZero cs
  | cs => hasSpareZero cs

/-- The meaning of a plain scalar without a tag. -/
def ofPlain (s : String) : Meaning :=
  if s.isEmpty || isNull s then .null
  else
    match bool? s with
    | some b => .bool b
    | none =>
        match int? s with
        | some n => .int n
        | none =>
            if isSpareZero s then .text s
            else
              match float? s with
              | some x => .float x
              | none => .text s

/-- The tags of the standard. -/
def boolTag : String := "tag:yaml.org,2002:bool"
def intTag : String := "tag:yaml.org,2002:int"
def floatTag : String := "tag:yaml.org,2002:float"
def nullTag : String := "tag:yaml.org,2002:null"

/-- The meaning of a scalar, or how its text fails its tag. -/
def ofScalar (s : String) (style : Style) (tag : Option String) : Except Wire.Mismatch Meaning :=
  let ask (meaning : Option Meaning) (expected : String) : Except Wire.Mismatch Meaning :=
    match meaning with
    | some m => .ok m
    | none => .error (.invalidValue (.str s) expected)
  let untagged := if style == .plain then ofPlain s else .text s
  match tag with
  | none => .ok untagged
  | some tag =>
      if tag == boolTag then ask ((bool? s).map .bool) "a boolean"
      else if tag == intTag then ask ((int? s).map .int) "an integer"
      else if tag == floatTag then ask ((float? s).map .float) "a float"
      else if tag == nullTag then ask (if isNull s then some .null else none) "null"
      else if tag.startsWith "!" then .ok untagged
      else .ok (.text s)

/-- An integer as what it is found to be: one beyond 64 bits is named with its type. -/
def foundInt (n : Int) : Wire.Found :=
  if -Int.pow 2 63 ≤ n ∧ n < Int.pow 2 64 then .int n
  else if n < 0 then .wide n "i128"
  else .wide n "u128"

/-- What the meaning is found to be. -/
def found : Meaning → Wire.Found
  | null => .unit
  | bool b => .bool b
  | int n => foundInt n
  | float x => .float x
  | text s => .str s

end Meaning

end EntryForm.Yaml
