import TemplateFill.Number.Shortest
import TemplateFill.Text.Basic

/-!
# How floating point numbers are written

Two notations are in use.  Stored numbers are written positionally, always with a decimal point,
while the point lies between the fifth place behind the first digit's zeros and the sixteenth
digit, and with an exponent otherwise.  Durations are always written positionally, and with a point
only if something follows it.
-/

namespace TemplateFill

namespace Decimal

/-- The digits, and the place of the point counted from before the first digit. -/
def point (d : Decimal) : Text × Int :=
  let ds := Text.ofNat d.digits
  (ds, ds.length + d.exp)

/-- Digits with a point at a place inside, before or behind them. -/
def positional (digits : Text) (point : Int) : Text :=
  if point ≤ 0 then "0." ++ List.replicate (-point).toNat '0' ++ digits
  else if digits.length ≤ point.toNat then
    digits ++ List.replicate (point.toNat - digits.length) '0'
  else digits.take point.toNat ++ '.' :: digits.drop point.toNat

/-- The notation of stored numbers. -/
def stored (d : Decimal) : Text :=
  if d.digits = 0 then "0.0"
  else
    let (ds, p) := d.point
    if -5 < p ∧ p ≤ 16 then
      let tail : Text := if ds.length ≤ p.toNat then ".0" else []
      positional ds p ++ tail
    else
      let e := 'e' :: Text.ofInt (p - 1)
      match ds with
      | [x] => x :: e
      | x :: r => x :: '.' :: r ++ e
      | [] => e

/-- The notation of durations. -/
def plain (d : Decimal) : Text :=
  if d.digits = 0 then "0" else positional d.point.1 d.point.2

end Decimal

namespace Binary64

/-- A number as it is stored. -/
def stored (negative : Bool) (b : Binary64) : Text :=
  (if negative then ['-'] else []) ++ (Decimal.shortest .even b).stored

/-- A number as it is written in a duration. -/
def plain (b : Binary64) : Text := (Decimal.shortest .up b).plain

end Binary64

end TemplateFill
