/-!
# Binary floating point numbers of 64 bits

A finite number without its sign is `mant * 2 ^ exp` with `mant < 2 ^ 53` and `-1074 ≤ exp ≤ 971`,
where `mant` is at least `2 ^ 52` unless `exp` is `-1074`.  `Binary64.ofRatio?` rounds a ratio of
natural numbers to the nearest such number, a tie to the one with an even mantissa, and has no
result where the nearest one would be infinite.  Every operation is the exact operation on ratios
followed by this rounding.
-/

namespace TemplateFill

/-- The magnitude of a finite binary floating point number. -/
structure Binary64 where
  mant : Nat
  exp : Int
  deriving DecidableEq, Repr

namespace Binary64

/-- The ratio `num / den` divided by `2 ^ q`. -/
def scaled (num den : Nat) (q : Int) : Nat × Nat :=
  if 0 ≤ q then (num, den * Nat.pow 2 q.toNat) else (num * Nat.pow 2 (-q).toNat, den)

/-- The natural number nearest to `num / den`, a tie to the even one. -/
def roundHalfEven (num den : Nat) : Nat :=
  let f := num / den
  let r := num % den
  if 2 * r > den ∨ (2 * r = den ∧ f % 2 = 1) then f + 1 else f

/-- The exponent with which the nearest number to a positive ratio is written. -/
def exponentOf (num den : Nat) : Int :=
  let q : Int := max (num.log2 - den.log2 - 52) (-1074)
  let s := scaled num den q
  if s.1 / s.2 < Nat.pow 2 52 then max (q - 1) (-1074) else q

/-- The number nearest to a ratio; there is none if the ratio is too large. -/
def ofRatio? (num den : Nat) : Option Binary64 :=
  if num = 0 then some ⟨0, -1074⟩
  else
    let q := exponentOf num den
    let s := scaled num den q
    let m := roundHalfEven s.1 s.2
    let r : Binary64 := if m = Nat.pow 2 53 then ⟨Nat.pow 2 52, q + 1⟩ else ⟨m, q⟩
    if r.exp > 971 then none else some r

/-- The exact value as a ratio. -/
def ratio (b : Binary64) : Nat × Nat :=
  if 0 ≤ b.exp then (b.mant * Nat.pow 2 b.exp.toNat, 1) else (b.mant, Nat.pow 2 (-b.exp).toNat)

/-- Zero. -/
def zero : Binary64 := ⟨0, -1074⟩

/-- The sum, rounded. -/
def add? (a b : Binary64) : Option Binary64 :=
  ofRatio? (a.ratio.1 * b.ratio.2 + b.ratio.1 * a.ratio.2) (a.ratio.2 * b.ratio.2)

/-- The product, rounded. -/
def mul? (a b : Binary64) : Option Binary64 :=
  ofRatio? (a.ratio.1 * b.ratio.1) (a.ratio.2 * b.ratio.2)

/-- The quotient by a positive number, rounded. -/
def div? (a b : Binary64) : Option Binary64 :=
  ofRatio? (a.ratio.1 * b.ratio.2) (a.ratio.2 * b.ratio.1)

end Binary64

end TemplateFill
