import EntryForm.Yaml.Token.Scalar

/-!
# YAML — anchors, tags and directives as tokens
-/

namespace EntryForm.Yaml

/-- A word: letters, digits, `_` and `-`. -/
def word (k : Cursor) : String × Cursor :=
  (String.ofList (k.rest.takeWhile isWordChar), k.skipWhile isWordChar)

/-! ### Anchors and aliases -/

/-- What may follow an anchor or an alias. -/
def endsAnchor (cs : List Char) : Bool :=
  atBlankOrEnd cs || nextSatisfies (fun c => c == '?' || c == ':' || c == ',' || c == ']' ||
    c == '}' || c == '%' || c == '@' || c.toNat == 0x60) cs

/-- An anchor or an alias, at its indicator. -/
def anchorToken (isAlias : Bool) (k : Cursor) : Except Problem (Token × Cursor) :=
  let (name, after) := word k.skip
  if name.isEmpty || !endsAnchor after.rest then
    after.fail (if isAlias then "while scanning an alias" else "while scanning an anchor") k.mark
      "did not find expected alphabetic or numeric character"
  else
    .ok (⟨if isAlias then .alias name else .anchor name, k.mark, after.mark⟩, after)

/-! ### Tags -/

/-- A character of a tag besides escapes; `verbatim` tags have some more. -/
def isTagChar (verbatim : Bool) (c : Char) : Bool :=
  isWordChar c || c == ';' || c == '/' || c == '?' || c == ':' || c == '@' || c == '&' ||
    c == '=' || c == '+' || c == '$' || c == '.' || c == '!' || c == '~' || c == '*' ||
    c == '\'' || c == '(' || c == ')' || (verbatim && (c == ',' || c == '[' || c == ']'))

/-- How many octets a character has whose first octet is given. -/
def octetCount (octet : Nat) : Nat :=
  if octet < 0x80 then 1
  else if octet / 0x20 = 6 then 2
  else if octet / 0x10 = 14 then 3
  else if octet / 8 = 30 then 4
  else 0

/-- Reads the trailing octets of an escaped character. -/
def tagOctets (context : String) (start : Mark) :
    Nat → Nat → Cursor → Except Problem (Nat × Cursor)
  | 0, value, k => .ok (value, k)
  | n + 1, value, k =>
      match k.rest with
      | '%' :: a :: b :: _ =>
          match hexNumber? 2 0 [a, b] with
          | none => k.fail context start "did not find URI escaped octet"
          | some octet =>
              if octet / 0x40 ≠ 2 then
                k.fail context start "found an incorrect trailing UTF-8 octet"
              else tagOctets context start n (value * 0x40 + octet % 0x40) (k.skipMany 3)
      | _ => k.fail context start "did not find URI escaped octet"

/-- Reads an escaped character of a tag, at its percent sign. -/
def tagEscape (context : String) (start : Mark) (k : Cursor) : Except Problem (Char × Cursor) :=
  match k.rest with
  | '%' :: a :: b :: _ =>
      match hexNumber? 2 0 [a, b] with
      | none => k.fail context start "did not find URI escaped octet"
      | some octet =>
          match octetCount octet with
          | 0 => k.fail context start "found an incorrect leading UTF-8 octet"
          | 1 => .ok (Char.ofNat octet, k.skipMany 3)
          | n + 1 => do
              let (value, k) ← tagOctets context start n (octet % Nat.pow 2 (6 - n)) (k.skipMany 3)
              .ok (Char.ofNat value, k)
  | _ => k.fail context start "did not find URI escaped octet"

/-- Reads the characters of a tag. -/
def tagChars (verbatim : Bool) (context : String) (start : Mark) :
    Nat → List Char → Cursor → Except Problem (List Char × Cursor)
  | 0, acc, k => .ok (acc.reverse, k)
  | fuel + 1, acc, k =>
      match k.rest with
      | '%' :: _ => do
          let (c, k) ← tagEscape context start k
          tagChars verbatim context start fuel (c :: acc) k
      | c :: _ =>
          if isTagChar verbatim c then tagChars verbatim context start fuel (c :: acc) k.skip
          else .ok (acc.reverse, k)
      | [] => .ok (acc.reverse, k)

/-- Reads the rest of a tag whose beginning `head` is read already.  The exclamation mark of `head`
is left out; without a head there has to be a character. -/
def tagText (verbatim directive : Bool) (head : List Char) (start : Mark) (k : Cursor) :
    Except Problem (String × Cursor) := do
  let context := if directive then "while parsing a %TAG directive" else "while parsing a tag"
  let (cs, k) ← tagChars verbatim context start (k.rest.length + 1) [] k
  if head.isEmpty && cs.isEmpty then k.fail context start "did not find expected tag URI"
  else .ok (String.ofList (head.drop 1 ++ cs), k)

/-- Reads a handle: an exclamation mark, a word, and maybe another exclamation mark. -/
def tagHandle (directive : Bool) (start : Mark) (k : Cursor) :
    Except Problem (List Char × Cursor) :=
  if !nextIs '!' k.rest then
    k.fail (if directive then "while scanning a tag directive" else "while scanning a tag") start
      "did not find expected '!'"
  else
    let (name, after) := word k.skip
    if nextIs '!' after.rest then .ok ('!' :: name.toList ++ ['!'], after.skip)
    else if directive && !name.isEmpty then
      after.fail "while parsing a tag directive" start "did not find expected '!'"
    else .ok ('!' :: name.toList, after)

/-- A tag, at its exclamation mark. -/
def tagToken (inFlow : Bool) (k : Cursor) : Except Problem (Token × Cursor) := do
  let start := k.mark
  let (handle, suffix, k) ← (do
    if nextIs '<' (k.rest.drop 1) then
      let (suffix, k) ← tagText true false [] start k.skip.skip
      if !nextIs '>' k.rest then
        k.fail "while scanning a tag" start "did not find the expected '>'"
      else .ok ("", suffix, k.skip)
    else
      let (handle, k) ← tagHandle false start k
      if handle.length > 1 && handle.getLast? == some '!' then
        let (suffix, k) ← tagText false false [] start k
        .ok (String.ofList handle, suffix, k)
      else
        let (suffix, k) ← tagText false false handle start k
        if suffix.isEmpty then .ok ("", "!", k) else .ok ("!", suffix, k)
    : Except Problem (String × String × Cursor))
  if !(inFlow && nextIs ',' k.rest) && !atBlankOrEnd k.rest then
    k.fail "while scanning a tag" start "did not find expected whitespace or line break"
  else .ok (⟨.tag handle suffix, start, k.mark⟩, k)

/-! ### Directives -/

/-- A number of a version, at most nine digits. -/
def versionNumber (start : Mark) (k : Cursor) : Except Problem (Nat × Cursor) :=
  let digits := k.rest.takeWhile Char.isDigit
  if digits.length > 9 then
    (k.skipMany 9).fail "while scanning a %YAML directive" start
      "found extremely long version number"
  else if digits.isEmpty then
    k.fail "while scanning a %YAML directive" start "did not find expected version number"
  else
    .ok (digits.foldl (fun n c => n * 10 + (c.toNat - 48)) 0, k.skipWhile Char.isDigit)

/-- The value of a version directive. -/
def versionValue (start : Mark) (k : Cursor) : Except Problem (Token.Kind × Cursor) := do
  let (major, k) ← versionNumber start k.skipBlanks
  if !nextIs '.' k.rest then
    k.fail "while scanning a %YAML directive" start "did not find expected digit or '.' character"
  else
    let (minor, k) ← versionNumber start k.skip
    .ok (.version major minor, k)

/-- The value of a tag directive. -/
def tagDirectiveValue (start : Mark) (k : Cursor) : Except Problem (Token.Kind × Cursor) := do
  let (handle, k) ← tagHandle true start k.skipBlanks
  if !atBlank k.rest then
    k.fail "while scanning a %TAG directive" start "did not find expected whitespace"
  else
    let (lead, k) ← tagText true true [] start k.skipBlanks
    if !atBlankOrEnd k.rest then
      k.fail "while scanning a %TAG directive" start
        "did not find expected whitespace or line break"
    else .ok (.tagDirective (String.ofList handle) lead, k)

/-- A directive, at its percent sign, up to the end of its line. -/
def directiveToken (k : Cursor) : Except Problem (Token × Cursor) := do
  let start := k.mark
  let context := "while scanning a directive"
  let (name, k) := word k.skip
  if name.isEmpty then k.fail context start "could not find expected directive name"
  else if !atBlankOrEnd k.rest then
    k.fail context start "found unexpected non-alphabetical character"
  else
    let (kind, k) ←
      if name = "YAML" then versionValue start k
      else if name = "TAG" then tagDirectiveValue start k
      else k.fail context start "found unknown directive name"
    let stop := k.mark
    let k := k.skipBlanks.skipComment
    if !atBreakOrEnd k.rest then
      k.fail context start "did not find expected comment or line break"
    else .ok (⟨kind, start, stop⟩, k.skipBreak)

end EntryForm.Yaml
