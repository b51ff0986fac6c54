import TemplateFill.Number.Binary64

/-!
# The shortest decimal that reads back

Of the decimals that round to a given binary number, `Decimal.shortest` finds one with the fewest
digits, and of those the nearest.  The decimals with `j` as their last place form the grid of the
multiples of `10 ^ j`.  Coarser grids have fewer digits, so the grids are tried from the coarsest
one on, and on each of them only the two neighbours of the number need to be looked at: if any
point of a grid rounds to the number, so does one of these.
-/

namespace TemplateFill

/-- The decimal `digits * 10 ^ exp`. -/
structure Decimal where
  digits : Nat
  exp : Int
  deriving DecidableEq, Repr

/-- Which of two equally near decimals is taken. -/
inductive Tie where
  /-- The one whose last digit is even. -/
  | even
  /-- The larger one. -/
  | up
  deriving DecidableEq, Repr

namespace Decimal

/-- The order of `a * 10 ^ j` and `b * 2 ^ p`. -/
def compareTo (a : Nat) (j : Int) (b : Nat) (p : Int) : Ordering :=
  compare (a * Nat.pow 10 j.toNat * Nat.pow 2 (-p).toNat)
    (b * Nat.pow 2 p.toNat * Nat.pow 10 (-j).toNat)

/-- Whether `c * 10 ^ j` rounds to `b`, which is positive: it lies between the midpoints to the
neighbours of `b`, which count as inside if the mantissa of `b` is even. -/
def roundsTo (b : Binary64) (c : Nat) (j : Int) : Bool :=
  let below := if b.mant = Nat.pow 2 52 ∧ b.exp ≠ -1074 then 4 * b.mant - 1 else 4 * b.mant - 2
  let above := 4 * b.mant + 2
  let lower := compareTo c j below (b.exp - 2)
  let upper := compareTo c j above (b.exp - 2)
  if b.mant % 2 = 0 then lower ≠ .lt && upper ≠ .gt else lower = .gt && upper = .lt

/-- The multiple of `10 ^ j` just below `b`, as its number of units. -/
def floorOn (b : Binary64) (j : Int) : Nat :=
  (b.mant * Nat.pow 2 b.exp.toNat * Nat.pow 10 (-j).toNat)
    / (Nat.pow 2 (-b.exp).toNat * Nat.pow 10 j.toNat)

/-- The point of the grid of `10 ^ j` that is taken for `b`, if any rounds to it. -/
def onGrid? (tie : Tie) (b : Binary64) (j : Int) : Option Nat :=
  let f := floorOn b j
  match roundsTo b f j, roundsTo b (f + 1) j with
  | true, true =>
    match compareTo (2 * f + 1) j (2 * b.mant) b.exp with
    | .gt => some f
    | .lt => some (f + 1)
    | .eq => match tie with
      | .even => some (if f % 2 = 0 then f else f + 1)
      | .up => some (f + 1)
  | true, false => some f
  | false, true => some (f + 1)
  | false, false => none

/-- The first grid with a hit, from `10 ^ j` on to finer ones. -/
def search (tie : Tie) (b : Binary64) : Nat → Int → Decimal
  | 0, j => ⟨floorOn b j, j⟩
  | n + 1, j =>
    match onGrid? tie b j with
    | some c => ⟨c, j⟩
    | none => search tie b n (j - 1)

/-- The shortest decimal that rounds to `b`.  No decimal at or above the first grid's unit can
round to `b`, and seventeen digits always suffice. -/
def shortest (tie : Tie) (b : Binary64) : Decimal :=
  if b.mant = 0 then ⟨0, 0⟩
  else
    let top : Int := ((b.mant.log2 + 1 + b.exp) * 30103) / 100000 + 2
    search tie b 24 top

end Decimal

end TemplateFill
