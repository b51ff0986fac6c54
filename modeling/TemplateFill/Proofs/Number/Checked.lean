import Mathlib.Algebra.Group.Nat.Defs

/-!
# Sums and differences that may fail

A sum fails if it has more than 64 bits, and a difference fails if it is negative.
-/

namespace TemplateFill

/-- The sum of two numbers, if it has 64 bits. -/
def sumChecked (a b : Nat) : Option Nat := if a + b < 2 ^ 64 then some (a + b) else none

/-- The difference of two numbers, if it is not negative. -/
def differenceChecked (a b : Nat) : Option Nat := if b ≤ a then some (a - b) else none

lemma sumChecked_eq {a b : Nat} (h : a + b < 2 ^ 64) : sumChecked a b = some (a + b) := if_pos h

lemma differenceChecked_eq {a b : Nat} (h : b ≤ a) : differenceChecked a b = some (a - b) :=
  if_pos h

end TemplateFill
