/-! What the bits of a binary floating point number stand for: a whole number of units that are a
power of two, or one of the values that are no numbers. -/

namespace CilEdit.Decimal

/-- The field widths of a binary interchange format. -/
structure BinaryFormat where
  /-- bits of the fraction field -/
  fractionBits : Nat
  /-- bits of the exponent field -/
  exponentBits : Nat

namespace BinaryFormat

/-- The format of 32 bits. -/
def single : BinaryFormat := ⟨23, 8⟩

/-- The format of 64 bits. -/
def double : BinaryFormat := ⟨52, 11⟩

/-- The exponent of the unit in which the least numbers of the format are counted. -/
def leastExponent (format : BinaryFormat) : Int :=
  2 - Nat.pow 2 (format.exponentBits - 1) - format.fractionBits

end BinaryFormat

/-- The value of a binary floating point number. -/
inductive Binary where
  | nan
  | infinite (negative : Bool)
  /-- `mantissa * 2 ^ exponent`; the number just below is half as far away as the number just above
  when `belowIsNear` -/
  | finite (negative : Bool) (mantissa : Nat) (exponent : Int) (belowIsNear : Bool)
  deriving DecidableEq

/-- The value that `bits` stands for. -/
def Binary.ofBits (format : BinaryFormat) (bits : Nat) : Binary :=
  let fractions := Nat.pow 2 format.fractionBits
  let scales := Nat.pow 2 format.exponentBits
  let fraction := bits % fractions
  let scale := bits / fractions % scales
  let negative := bits / (fractions * scales) % 2 = 1
  if scale + 1 = scales then
    if fraction = 0 then .infinite negative else .nan
  else if scale = 0 then
    .finite negative fraction format.leastExponent false
  else
    .finite negative (fractions + fraction) (format.leastExponent + scale - 1)
      (fraction = 0 ∧ 1 < scale)

/-- The value of a number of single precision. -/
def Binary.ofFloat32 (value : Float32) : Binary := .ofBits .single value.toBits.toNat

/-- The value of a number of double precision. -/
def Binary.ofFloat (value : Float) : Binary := .ofBits .double value.toBits.toNat

end CilEdit.Decimal
