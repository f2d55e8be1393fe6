import CilEdit.Decimal.Shortest

/-! Decimals as text. Listings write every number out in full; diagnostics show that a number is a
floating point number and fall back on a power of ten for large and small ones. -/

namespace CilEdit.Decimal

/-- The significant digits as text. -/
def digitText (number : Decimal) : String := toString number.digits

/-- `count` zeros. -/
def zeros (count : Nat) : String := String.ofList (List.replicate count '0')

/-- The power of ten of the first digit. -/
def leadingPower (number : Decimal) : Int := number.exponent + number.digitText.length - 1

/-- The number written out, and whether a point was needed. -/
def positional (number : Decimal) : String × Bool :=
  if 0 ≤ number.exponent then
    (if number.digits = 0 then "0" else number.digitText ++ zeros number.exponent.toNat, false)
  else
    let places := (-number.exponent).toNat
    let digits := zeros (places + 1 - number.digitText.length) ++ number.digitText
    let whole := digits.length - places
    (String.ofList (digits.toList.take whole) ++ "." ++ String.ofList (digits.toList.drop whole),
      true)

/-- One digit, a point and the other digits, and a power of ten. -/
def scientific (number : Decimal) : String :=
  let first := String.ofList (number.digitText.toList.take 1)
  let rest := String.ofList (number.digitText.toList.drop 1)
  first ++ (if rest = "" then "" else "." ++ rest) ++ "e" ++ toString number.leadingPower

/-- The sign in front of a number. -/
def sign (negative : Bool) : String := if negative then "-" else ""

namespace Binary

/-- The text of a value, given how its shortest decimal is written. -/
def textWith (write : Decimal → String) : Binary → String
  | .nan => "NaN"
  | .infinite negative => sign negative ++ "inf"
  | .finite negative mantissa exponent belowIsNear =>
    sign negative ++ write (shortest mantissa exponent belowIsNear)

/-- The value as a listing writes it: all digits, with a point only where there is a fraction. -/
def plainText : Binary → String := textWith fun number => number.positional.1

/-- The decimals that diagnostics write out: zero, and those from `0.0001` to below ten to the power
of sixteen. -/
def isWrittenOut (number : Decimal) : Bool :=
  number.digits = 0 ∨ (-4 ≤ number.leadingPower ∧ number.leadingPower < 16)

/-- The value as diagnostics write it: always with a point or a power of ten. -/
def markedText : Binary → String := textWith fun number =>
  if isWrittenOut number then
    let (digits, hasPoint) := number.positional
    if hasPoint then digits else digits ++ ".0"
  else number.scientific

end Binary

end CilEdit.Decimal
