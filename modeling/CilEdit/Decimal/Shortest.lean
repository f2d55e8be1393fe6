import CilEdit.Decimal.Binary

/-! The shortest decimal that reads back as a given binary number. All reals between the midpoints
to the two neighbours of the number round to it, the midpoints themselves when its mantissa is even.
On the grid of decimals with a fixed number of digits the two grid points around the number are the
only candidates: when any grid point lies in that range, one of them does. The grids are tried from
one digit on, and of two candidates on one grid the nearer is taken, of two equally near ones the
upper. -/

namespace CilEdit

/-- The number `digits * 10 ^ exponent`. -/
structure Decimal where
  /-- the significant digits as one number -/
  digits : Nat
  /-- the power of ten of the last digit -/
  exponent : Int
  deriving DecidableEq

namespace Decimal

/-- The reals that round to one positive binary number, counted in units of `2 ^ exponent`. -/
structure RoundingRange where
  /-- the number itself -/
  value : Nat
  /-- the midpoint to the number below -/
  lower : Nat
  /-- the midpoint to the number above -/
  upper : Nat
  /-- the power of two of the unit -/
  exponent : Int
  /-- whether the midpoints belong to the range -/
  closed : Bool

namespace RoundingRange

/-- The range of `mantissa * 2 ^ exponent`. Quarters of the unit make all three bounds whole. -/
def around (mantissa : Nat) (exponent : Int) (belowIsNear : Bool) : RoundingRange where
  value := 4 * mantissa
  lower := 4 * mantissa - (if belowIsNear then 1 else 2)
  upper := 4 * mantissa + 2
  exponent := exponent - 2
  closed := mantissa % 2 = 0

/-- The factor that brings units of the range and powers of ten to one scale, on the decimal side.
-/
def decimalScale (range : RoundingRange) (power : Int) : Nat :=
  Nat.pow 10 power.toNat * Nat.pow 2 (-range.exponent).toNat

/-- The factor that brings units of the range and powers of ten to one scale, on the binary side. -/
def binaryScale (range : RoundingRange) (power : Int) : Nat :=
  Nat.pow 10 (-power).toNat * Nat.pow 2 range.exponent.toNat

/-- Whether `digits * 10 ^ power` lies in the range. -/
def contains (range : RoundingRange) (digits : Nat) (power : Int) : Bool :=
  let point := digits * range.decimalScale power
  let lower := range.lower * range.binaryScale power
  let upper := range.upper * range.binaryScale power
  if range.closed then lower ≤ point ∧ point ≤ upper else lower < point ∧ point < upper

/-- The greatest multiple of `10 ^ power` that is not above the number, as a count. -/
def floor (range : RoundingRange) (power : Int) : Nat :=
  range.value * range.binaryScale power / range.decimalScale power

/-- Whether the grid point after the floor is at least as near to the number as the floor. -/
def ceilingIsNear (range : RoundingRange) (power : Int) : Bool :=
  (2 * range.floor power + 1) * range.decimalScale power ≤
    2 * (range.value * range.binaryScale power)

/-- The point of the grid with step `10 ^ power` that stands for the number. -/
def onGrid? (range : RoundingRange) (power : Int) : Option Nat :=
  let below := range.floor power
  let above := below + 1
  if range.contains below power then
    if range.contains above power && range.ceilingIsNear power then some above else some below
  else if range.contains above power then some above
  else none

/-- The number of decimal digits in front of the point of a positive number, less one; negative for
a number below one. -/
def magnitude (range : RoundingRange) : Int :=
  let places := (toString (range.decimalScale 0)).length
  (toString (range.floor (-places))).length - 1 - places

/-- The first hit on the grids from step `10 ^ power` on, each ten times as fine as the last one. -/
def search (range : RoundingRange) : Nat → Int → Decimal
  | 0, power => ⟨range.floor power, power⟩
  | grids + 1, power =>
    match range.onGrid? power with
    | some digits => ⟨digits, power⟩
    | none => range.search grids (power - 1)

end RoundingRange

/-- The same number without zeros at the end of its digits. -/
def trim (number : Decimal) : Decimal :=
  if number.digits ≠ 0 ∧ number.digits % 10 = 0 then
    trim ⟨number.digits / 10, number.exponent + 1⟩
  else number
termination_by number.digits
decreasing_by omega

/-- The shortest decimal that reads back as `mantissa * 2 ^ exponent`. Seventeen digits tell all
numbers of double precision apart, so the search ends on one of the grids. -/
def shortest (mantissa : Nat) (exponent : Int) (belowIsNear : Bool) : Decimal :=
  if mantissa = 0 then ⟨0, 0⟩
  else
    let range := RoundingRange.around mantissa exponent belowIsNear
    (range.search 17 range.magnitude).trim

end Decimal

end CilEdit
