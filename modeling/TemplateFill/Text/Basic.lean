/-!
# Text

A text is a list of characters, so that a reader can be written and reasoned about by recursion
on it.  This file fixes the type, the reading of string literals as texts, and the ways of cutting
a text at a character:

* `Text.splitOnce` cuts at the first occurrence and drops it;
* `Text.pieces` cuts at every occurrence;
* `Text.join` puts pieces together again.
-/

namespace TemplateFill

/-- A list of Unicode scalar values. -/
abbrev Text := List Char

instance : Coe String Text := ⟨String.toList⟩

namespace Text

/-- The parts before and after the first `c`, if there is one. -/
def splitOnce (c : Char) : Text → Option (Text × Text)
  | [] => none
  | x :: r => if x = c then some ([], r) else (splitOnce c r).map fun p => (x :: p.1, p.2)

/-- The pieces between the occurrences of `c`; there is one more of them than of `c`. -/
def pieces (c : Char) : Text → List Text
  | [] => [[]]
  | x :: r =>
    if x = c then [] :: pieces c r
    else match pieces c r with
      | [] => [[x]]
      | p :: ps => (x :: p) :: ps

/-- The pieces in order with `sep` between neighbours. -/
def join (sep : Text) : List Text → Text
  | [] => []
  | [p] => p
  | p :: q :: ps => p ++ sep ++ join sep (q :: ps)

/-- The decimal digits of a number. -/
def ofNat (n : Nat) : Text := Nat.toDigits 10 n

/-- A whole number with its sign, if it is negative. -/
def ofInt (i : Int) : Text := if i < 0 then '-' :: ofNat i.natAbs else ofNat i.natAbs

/-- The value of a non-empty row of decimal digits. -/
def toNat? (s : Text) : Option Nat :=
  if s.isEmpty ∨ ¬ s.all Char.isDigit then none
  else some (Nat.ofDigitChars 10 s 0)

/-- Blanks are put in front of a text that is narrower than `width`. -/
def padLeft (width : Nat) (s : Text) : Text := List.replicate (width - s.length) ' ' ++ s

end Text

end TemplateFill
