/-!
# Text — blanks

A blank character is one with the Unicode property `White_Space`; a text is blank when every one
of its characters is.  `trim` drops blank characters from both ends, `trimEnd` from the end only.
-/

namespace EntryForm.Text

/-- The code points with the Unicode property `White_Space`. -/
def isBlankChar (c : Char) : Bool :=
  let n := c.toNat
  (0x9 ≤ n && n ≤ 0xD) || n == 0x20 || n == 0x85 || n == 0xA0 || n == 0x1680 ||
    (0x2000 ≤ n && n ≤ 0x200A) || n == 0x2028 || n == 0x2029 || n == 0x202F || n == 0x205F ||
    n == 0x3000

/-- No character of the text is visible. -/
def isBlank (s : String) : Bool := s.toList.all isBlankChar

/-- The characters without the blank ones at the end. -/
def dropEndBlanks (cs : List Char) : List Char := (cs.reverse.dropWhile isBlankChar).reverse

/-- The text without the blanks at its end. -/
def trimEnd (s : String) : String := String.ofList (dropEndBlanks s.toList)

/-- The text without the blanks at either end. -/
def trim (s : String) : String :=
  String.ofList (dropEndBlanks (s.toList.dropWhile isBlankChar))

/-- The ASCII capitals of the text in lower case, every other character as it is. -/
def lowerAscii (s : String) : String := String.ofList (s.toList.map Char.toLower)

end EntryForm.Text
