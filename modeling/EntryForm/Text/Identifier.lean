/-!
# Text — identifiers and locales

An identifier is a non-empty text over lowercase letters, digits, `_` and `-`.  A locale is a
language of two or three lowercase letters, with or without a region of two capitals after a
hyphen.  Letters and digits are the ASCII ones.
-/

namespace EntryForm.Text

/-- A character an identifier may hold. -/
def isIdentifierChar (c : Char) : Bool := c.isLower || c.isDigit || c == '_' || c == '-'

/-- Non-empty, over identifier characters only. -/
def isIdentifier (s : String) : Bool := !s.isEmpty && s.toList.all isIdentifierChar

/-- Nothing, or a hyphen and two capitals. -/
def isRegionSuffix : List Char → Bool
  | [] => true
  | ['-', a, b] => a.isUpper && b.isUpper
  | _ => false

/-- A language tag such as `en`, or a language and a region such as `en-US`. -/
def isLocale (s : String) : Bool :=
  let language := s.toList.takeWhile Char.isLower
  (language.length == 2 || language.length == 3) &&
    isRegionSuffix (s.toList.dropWhile Char.isLower)

end EntryForm.Text
