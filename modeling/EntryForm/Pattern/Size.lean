/-!
# Patterns — sizes

How many bytes the machines take up that a regular expression is compiled to: one that reads
forwards and one that reads backwards.  Each must stay within a limit.
-/

namespace EntryForm.Pattern

/-- The bytes a machine takes up that reads forwards, and one that reads backwards. -/
structure Size where
  forward : Nat
  backward : Nat
  deriving DecidableEq, Repr

namespace Size

/-- The same for both machines. -/
def both (n : Nat) : Size := ⟨n, n⟩

/-- One size and another. -/
def plus (a b : Size) : Size := ⟨a.forward + b.forward, a.backward + b.backward⟩

/-- A size several times. -/
def times (n : Nat) (a : Size) : Size := ⟨n * a.forward, n * a.backward⟩

/-- The bytes of a state. -/
def state : Nat := 32

/-- The bytes of a transition on a range of bytes. -/
def transition : Nat := 8

/-- The bytes of a branch without one. -/
def branch : Nat := 4

/-- The most bytes a machine may take up. -/
def limit : Nat := 10 * Nat.pow 2 20

/-- Both machines are within the limit. -/
def fits (a : Size) : Bool := a.forward ≤ limit && a.backward ≤ limit

end Size

end EntryForm.Pattern
