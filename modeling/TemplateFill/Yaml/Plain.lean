import TemplateFill.Json.Token
import TemplateFill.Number.Notation

/-!
# What plain scalars stand for

A plain scalar may stand for nothing, a truth value, a whole number or a floating point number.
Anything else is text.  Whole numbers may be hexadecimal, octal or binary.  Decimal digits with a
zero in front are text, so that they can be kept as they are.
-/

namespace TemplateFill

namespace Yaml

/-- A floating point number. -/
inductive Real where
  | finite (negative : Bool) (magnitude : Binary64)
  | infinity (negative : Bool)
  | nan
  deriving DecidableEq, Repr

/-- What a plain scalar stands for. -/
inductive Meaning where
  | null
  | bool (b : Bool)
  | integer (i : Int)
  | real (r : Real)
  | text
  deriving DecidableEq, Repr

/-- Whether a scalar is decimal digits with a zero in front, perhaps after a sign. -/
def hasLeadingZero (s : Text) : Bool :=
  let s := match s with
    | '-' :: r | '+' :: r => r
    | _ => s
  match s with
  | '0' :: c :: r => c.isDigit && r.all Char.isDigit
  | _ => false

/-- Whether a scalar is a word for nothing. -/
def isNullWord (s : Text) : Bool :=
  [("null" : Text), "Null", "NULL", "~"].contains s

/-- The truth value that a scalar is a word for. -/
def boolWord? (s : Text) : Option Bool :=
  if [("true" : Text), "True", "TRUE"].contains s then some true
  else if [("false" : Text), "False", "FALSE"].contains s then some false
  else none

/-- The value of a non-empty row of digits in a base. -/
def digits? (base : Nat) (s : Text) : Option Nat :=
  if s.isEmpty then none
  else s.foldlM (fun n c => do
    let d ← Json.hexDigit? c
    if d < base then some (base * n + d) else none) 0

/-- The base that a scalar names in front of its digits, and the digits. -/
def basedDigits? : Text → Option Nat
  | '0' :: 'x' :: r => digits? 16 r
  | '0' :: 'o' :: r => digits? 8 r
  | '0' :: 'b' :: r => digits? 2 r
  | _ => none

/-- The whole number without a minus sign that a scalar is. -/
def natural? (s : Text) : Option Nat :=
  let unsigned := match s with
    | '+' :: r => r
    | _ => s
  (basedDigits? unsigned).orElse fun _ =>
    if hasLeadingZero s then none else digits? 10 unsigned

/-- The whole number after a minus sign that a scalar is. -/
def negated? (s : Text) : Option Nat :=
  match s with
  | '-' :: r =>
    (basedDigits? r).orElse fun _ => if hasLeadingZero s then none else digits? 10 r
  | _ => none

/-- The whole number that a scalar is, if it has at most 128 bits. -/
def integer? (s : Text) : Option Int :=
  match natural? s with
  | some n => if n < Nat.pow 2 128 then some n else none
  | none =>
    match negated? s with
    | some n => if n ≤ Nat.pow 2 127 then some (-n) else none
    | none => none

/-- The exponent at the end of a decimal; it is zero if there is none. -/
def exponent? : Text → Option Int
  | [] => some 0
  | e :: r =>
    if e = 'e' ∨ e = 'E' then
      match r with
      | '+' :: r => (digits? 10 r).map fun n => n
      | '-' :: r => (digits? 10 r).map fun n => -n
      | r => (digits? 10 r).map fun n => n
    else none

/-- The number nearest to a decimal without a sign.  Either side of the point may be empty, but not
both, and there is no number for a decimal that is too large. -/
def decimal? (s : Text) : Option Binary64 := do
  let whole := s.takeWhile Char.isDigit
  let rest := s.drop whole.length
  let (part, rest) := match rest with
    | '.' :: r => (r.takeWhile Char.isDigit, r.dropWhile Char.isDigit)
    | _ => ([], rest)
  let digits := whole ++ part
  let n ← digits? 10 digits
  let e := (← exponent? rest) - part.length
  if n = 0 ∨ e + digits.length < -400 then some .zero
  else if 400 < e + ((Nat.toDigits 10 n).length : Int) then none
  else Binary64.ofRatio? (n * Nat.pow 10 e.toNat) (Nat.pow 10 (-e).toNat)

/-- The floating point number that a scalar is. -/
def real? (s : Text) : Option Real :=
  if [(".inf" : Text), ".Inf", ".INF", "+.inf", "+.Inf", "+.INF"].contains s then
    some (.infinity false)
  else if [("-.inf" : Text), "-.Inf", "-.INF"].contains s then some (.infinity true)
  else if [(".nan" : Text), ".NaN", ".NAN"].contains s then some .nan
  else
    match s with
    | '+' :: r => (decimal? r).map (.finite false)
    | '-' :: r => (decimal? r).map (.finite true)
    | r => (decimal? r).map (.finite false)

/-- What a plain scalar stands for. -/
def Meaning.ofPlain (s : Text) : Meaning :=
  if s.isEmpty ∨ isNullWord s then .null
  else match boolWord? s with
    | some b => .bool b
    | none =>
      match integer? s with
      | some i => .integer i
      | none =>
        match if hasLeadingZero s then none else real? s with
        | some r => .real r
        | none => .text

end Yaml

end TemplateFill
