import EntryForm.Json.Fault
import EntryForm.Decimal.Reading

/-!
# JSON — scalars

Reading and skipping words, numbers and strings.  A number without a fraction or an exponent is an
integer as long as it fits 64 bits, and a floating point number otherwise; `-0` is one too.  When
the digits of a number exceed 64 bits the further ones only count for its magnitude.  Skipping
checks less than reading: the range of a number and the pairing of surrogates are not looked at.
-/

namespace EntryForm.Json

/-! ### Words -/

/-- Reads the rest of `null`, `true` or `false`. -/
def readWord : List Char → Cursor → Except Error Cursor
  | [], k => .ok k
  | w :: ws, k =>
      match k.rest with
      | [] => k.fail .endInValue
      | c :: _ => if c = w then readWord ws k.next else k.failPeeked .expectedIdent

/-! ### Strings -/

/-- The value of a hexadecimal digit. -/
def hexValue? (c : Char) : Option Nat :=
  if '0' ≤ c ∧ c ≤ '9' then some (c.toNat - 48)
  else if 'a' ≤ c ∧ c ≤ 'f' then some (c.toNat - 87)
  else if 'A' ≤ c ∧ c ≤ 'F' then some (c.toNat - 55)
  else none

/-- Beyond the next `n` bytes, which may end inside a character. -/
def skipBytes : List Char → Nat → Cursor → Cursor
  | [], _, k => k
  | c :: rest, n, k =>
      if n = 0 then k
      else if c.utf8Size ≤ n then skipBytes rest (n - c.utf8Size) (k.past c rest)
      else { k with column := k.column + n }

/-- The number of bytes left. -/
def bytesLeft (k : Cursor) : Nat := k.rest.foldl (fun n c => n + c.utf8Size) 0

/-- Reads four hexadecimal digits, after `\u`. -/
def readHex (k : Cursor) : Except Error (Nat × Cursor) :=
  match k.rest with
  | a :: b :: c :: d :: rest =>
      match hexValue? a, hexValue? b, hexValue? c, hexValue? d with
      | some a, some b, some c, some d =>
          .ok (((a * 16 + b) * 16 + c) * 16 + d, ⟨rest, k.line, k.column + 4⟩)
      | _, _, _, _ => (skipBytes k.rest 4 k).fail .invalidEscape
  | _ =>
      if bytesLeft k < 4 then (skipBytes k.rest 4 k).fail .endInString
      else (skipBytes k.rest 4 k).fail .invalidEscape

/-- Reads the second of two `\u` escapes and joins it to the first. -/
def readTrailing (high : Nat) (k : Cursor) : Except Error (Char × Cursor) :=
  match k.rest with
  | [] => k.fail .endInString
  | '\\' :: _ =>
      let k := k.next
      match k.rest with
      | [] => k.fail .endInString
      | 'u' :: _ => do
          let (low, k) ← readHex k.next
          if low < 0xDC00 ∨ 0xDFFF < low then k.fail .loneSurrogate
          else .ok (Char.ofNat ((high - 0xD800) * 0x400 + (low - 0xDC00) + 0x10000), k)
      | _ => k.failPeeked .endOfSurrogate
  | _ => k.failPeeked .endOfSurrogate

/-- The character that a letter after a backslash stands for. -/
def escaped? : Char → Option Char
  | '"' => some '"'
  | '\\' => some '\\'
  | '/' => some '/'
  | 'b' => some '\x08'
  | 'f' => some '\x0c'
  | 'n' => some '\n'
  | 'r' => some '\r'
  | 't' => some '\t'
  | _ => none

/-- Reads what follows a backslash. -/
def readEscape (k : Cursor) : Except Error (Char × Cursor) :=
  match k.rest with
  | [] => k.fail .endInString
  | 'u' :: _ => do
      let (n, k) ← readHex k.next
      if 0xDC00 ≤ n ∧ n ≤ 0xDFFF then k.fail .loneSurrogate
      else if 0xD800 ≤ n ∧ n ≤ 0xDBFF then readTrailing n k
      else .ok (Char.ofNat n, k)
  | c :: _ =>
      match escaped? c with
      | some d => .ok (d, k.next)
      | none => k.failPeeked .invalidEscape

/-- Reads the rest of a string, after its opening quote; `acc` holds the characters before, the
last one first. -/
def readStringFrom : Nat → List Char → Cursor → Except Error (String × Cursor)
  | 0, _, k => k.fail .endInString
  | fuel + 1, acc, k =>
      match k.rest with
      | [] => k.fail .endInString
      | '"' :: _ => .ok (String.ofList acc.reverse, k.next)
      | '\\' :: _ => do
          let (c, k) ← readEscape k.next
          readStringFrom fuel (c :: acc) k
      | c :: _ =>
          if c.toNat < 0x20 then k.failPeeked .controlCharacter
          else readStringFrom fuel (c :: acc) k.next

/-- Reads a string, after its opening quote. -/
def readString (k : Cursor) : Except Error (String × Cursor) :=
  readStringFrom (k.rest.length + 1) [] k

/-- Skips the rest of a string, after its opening quote. -/
def skipStringFrom : Nat → Cursor → Except Error Cursor
  | 0, k => k.fail .endInString
  | fuel + 1, k =>
      match k.rest with
      | [] => k.fail .endInString
      | '"' :: _ => .ok k.next
      | '\\' :: _ =>
          let k := k.next
          match k.rest with
          | [] => k.fail .endInString
          | 'u' :: _ => do
              let (_, k) ← readHex k.next
              skipStringFrom fuel k
          | c :: _ =>
              if (escaped? c).isSome then skipStringFrom fuel k.next
              else k.failPeeked .invalidEscape
      | c :: _ =>
          if c.toNat < 0x20 then k.fail .controlCharacter else skipStringFrom fuel k.next

/-- Skips a string, after its opening quote. -/
def skipString (k : Cursor) : Except Error Cursor := skipStringFrom (k.rest.length + 1) k

/-! ### Numbers -/

/-- A number as a text has it. -/
inductive Number where
  | int (n : Int)
  | float (x : Float)

def Number.toJson : Number → Json
  | int n => .int n
  | float x => .float x

/-- The value of the digits at the start of a text, as long as it fits 64 bits: the digits taken,
how many, and what is left. -/
def takeDigits (value count : Nat) : List Char → Nat × Nat × List Char
  | [] => (value, count, [])
  | c :: rest =>
      if c.isDigit then
        let next := value * 10 + (c.toNat - 48)
        if next < Nat.pow 2 64 then takeDigits next (count + 1) rest else (value, count, c :: rest)
      else (value, count, c :: rest)

/-- Beyond `n` digits, with `rest` left. -/
def Cursor.pastDigits (k : Cursor) (n : Nat) (rest : List Char) : Cursor :=
  ⟨rest, k.line, k.column + n⟩

/-- Beyond the digits that follow, and their number. -/
def Cursor.countDigits (k : Cursor) : Nat × Cursor :=
  let k' := k.skipDigits
  (k'.column - k.column, k')

/-- The number `digits · 10^exponent`. -/
def makeFloat (negative : Bool) (digits : Nat) (exponent : Int) (k : Cursor) :
    Except Error (Number × Cursor) :=
  match Decimal.scaled (UInt64.ofNat digits) exponent with
  | none => k.fail .numberOutOfRange
  | some x => .ok (.float (if negative then -x else x), k)

/-- The value of the digits, or `none` from `2^31` on, with what is left. -/
def takeExponent : Option Nat → List Char → Option Nat × List Char
  | value, [] => (value, [])
  | none, rest => (none, rest)
  | some value, c :: rest =>
      if c.isDigit then
        let next := value * 10 + (c.toNat - 48)
        if next < Nat.pow 2 31 then takeExponent (some next) rest else (none, rest)
      else (some value, c :: rest)

/-- Reads an exponent, at its `e`. -/
def readExponent (negative : Bool) (digits : Nat) (exponent : Int) (k : Cursor) :
    Except Error (Number × Cursor) :=
  let k := k.next
  let (up, k) : Bool × Cursor :=
    match k.rest with
    | '+' :: _ => (true, k.next)
    | '-' :: _ => (false, k.next)
    | _ => (true, k)
  match k.rest with
  | [] => k.fail .endInValue
  | c :: rest =>
      if !c.isDigit then k.failPeeked .invalidNumber
      else
        match takeExponent (some (c.toNat - 48)) rest with
        | (some e, left) =>
            makeFloat negative digits (if up then exponent + e else exponent - e)
              (k.pastDigits (k.rest.length - left.length) left)
        | (none, left) =>
            let k := k.pastDigits (k.rest.length - left.length) left
            if digits ≠ 0 ∧ up then k.fail .numberOutOfRange
            else .ok (.float (if negative then -0.0 else 0.0), k.skipDigits)

/-- Reads what may follow the digits of a number: an exponent. -/
def readScaled (negative : Bool) (digits : Nat) (exponent : Int) (k : Cursor) :
    Except Error (Number × Cursor) :=
  match k.rest with
  | 'e' :: _ | 'E' :: _ => readExponent negative digits exponent k
  | _ => makeFloat negative digits exponent k

/-- Reads a fraction, at its point. -/
def readFraction (negative : Bool) (digits : Nat) (exponent : Int) (k : Cursor) :
    Except Error (Number × Cursor) :=
  let k := k.next
  let (value, n, rest) := takeDigits digits 0 k.rest
  let after := k.pastDigits n rest
  match rest with
  | c :: _ =>
      if c.isDigit then readScaled negative value (exponent - n) after.skipDigits
      else if n = 0 then after.failPeeked .invalidNumber
      else readScaled negative value (exponent - n) after
  | [] =>
      if n = 0 then after.failPeeked .endInValue
      else readScaled negative value (exponent - n) after

/-- Reads what may follow a whole part that fits 64 bits. -/
def readTail (negative : Bool) (digits : Nat) (k : Cursor) :
    Except Error (Number × Cursor) :=
  match k.rest with
  | '.' :: _ => readFraction negative digits 0 k
  | 'e' :: _ | 'E' :: _ => readExponent negative digits 0 k
  | _ =>
      if !negative then .ok (.int digits, k)
      else if digits = 0 ∨ Nat.pow 2 63 < digits then .ok (.float (-(UInt64.ofNat digits).toFloat), k)
      else .ok (.int (-digits), k)

/-- Reads a number, after its sign. -/
def readNumber (negative : Bool) (k : Cursor) :
    Except Error (Number × Cursor) :=
  match k.rest with
  | [] => k.fail .endInValue
  | '0' :: _ =>
      let k := k.next
      match k.rest with
      | c :: _ => if c.isDigit then k.failPeeked .invalidNumber else readTail negative 0 k
      | [] => readTail negative 0 k
  | c :: _ =>
      if !c.isDigit then k.failPeeked .invalidNumber
      else
        let (digits, n, rest) := takeDigits 0 0 k.rest
        let k := k.pastDigits n rest
        match rest with
        | c :: _ =>
            if c.isDigit then
              -- the digits from here on count for the magnitude alone
              let (more, k) := k.countDigits
              match k.rest with
              | '.' :: _ => readFraction negative digits more k
              | _ => readScaled negative digits more k
            else readTail negative digits k
        | [] => readTail negative digits k

/-- Skips an exponent, at its `e`. -/
def skipExponent (k : Cursor) : Except Error Cursor :=
  let k := k.next
  let k := match k.rest with
    | '+' :: _ | '-' :: _ => k.next
    | _ => k
  match k.rest with
  | [] => k.fail .invalidNumber
  | c :: _ => if c.isDigit then .ok k.skipDigits else k.failPeeked .invalidNumber

/-- Skips a number, after its sign. -/
def skipNumber (k : Cursor) : Except Error Cursor := do
  let whole ← match k.rest with
    | [] => k.fail .invalidNumber
    | '0' :: _ =>
        let k := k.next
        match k.rest with
        | c :: _ => if c.isDigit then k.failPeeked .invalidNumber else .ok k
        | [] => .ok k
    | c :: _ => if c.isDigit then .ok k.skipDigits else k.failPeeked .invalidNumber
  match whole.rest with
  | '.' :: _ =>
      let k := whole.next
      let after := k.skipDigits
      if after.column = k.column then after.failPeeked .invalidNumber
      else
        match after.rest with
        | 'e' :: _ | 'E' :: _ => skipExponent after
        | _ => .ok after
  | 'e' :: _ | 'E' :: _ => skipExponent whole
  | _ => .ok whole

end EntryForm.Json
