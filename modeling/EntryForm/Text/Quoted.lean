import EntryForm.Text.Hidden

/-!
# Text — quoted text

Text in quotes, as messages show it: a backslash and certain marks have a backslash before them,
line ends and tabs are written by letter, and hidden characters by their code in hexadecimal.
`quoted` marks double quotes, `quotedStrictly` single quotes as well; `quotedChar` writes one
character in single quotes.
-/

namespace EntryForm.Text

/-- A character inside quotes, where the characters of `marks` have a backslash before them. -/
def escapedChar (marks : List Char) (c : Char) : List Char :=
  if c == '\\' || marks.contains c then ['\\', c]
  else if c == '\n' then ['\\', 'n']
  else if c == '\r' then ['\\', 'r']
  else if c == '\t' then ['\\', 't']
  else if c.toNat == 0 then ['\\', '0']
  else if isHidden c then ['\\', 'u', '\x7b'] ++ Nat.toDigits 16 c.toNat ++ ['\x7d']
  else [c]

/-- The text in double quotes, with `marks` after backslashes. -/
def quotedWith (marks : List Char) (s : String) : String :=
  "\"" ++ String.ofList (s.toList.flatMap (escapedChar marks)) ++ "\""

/-- The text in double quotes. -/
def quoted (s : String) : String := quotedWith ['"'] s

/-- The text in double quotes, with backslashes before single quotes too. -/
def quotedStrictly (s : String) : String := quotedWith ['"', '\''] s

/-- The character in single quotes. -/
def quotedChar (c : Char) : String := "'" ++ String.ofList (escapedChar ['\''] c) ++ "'"

end EntryForm.Text
