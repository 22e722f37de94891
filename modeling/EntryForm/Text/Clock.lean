/-!
# Text — times of day

A time of day is written on the 24-hour clock with zero-padded ASCII digits: `HH:MM`, and where
seconds are allowed also `HH:MM:SS`.
-/

namespace EntryForm.Text

/-- Two digits that name an hour, `00` to `23`. -/
def isHour (a b : Char) : Bool :=
  ((a == '0' || a == '1') && b.isDigit) ||
    (a == '2' && (b == '0' || b == '1' || b == '2' || b == '3'))

/-- Two digits that name a minute or a second, `00` to `59`. -/
def isSixtieth (a b : Char) : Bool := a.isDigit && a.toNat ≤ '5'.toNat && b.isDigit

/-- `HH:MM`. -/
def isClock (s : String) : Bool :=
  match s.toList with
  | [h₁, h₂, ':', m₁, m₂] => isHour h₁ h₂ && isSixtieth m₁ m₂
  | _ => false

/-- `HH:MM` or `HH:MM:SS`. -/
def isClockWithSeconds (s : String) : Bool :=
  match s.toList with
  | [h₁, h₂, ':', m₁, m₂] => isHour h₁ h₂ && isSixtieth m₁ m₂
  | [h₁, h₂, ':', m₁, m₂, ':', s₁, s₂] =>
      isHour h₁ h₂ && isSixtieth m₁ m₂ && isSixtieth s₁ s₂
  | _ => false

end EntryForm.Text
