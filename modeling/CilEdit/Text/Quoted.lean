import CilEdit.Text.GraphemeExtend
import CilEdit.Text.Unprintable

/-! Strings between double quotes. What cannot be read in print, and the two characters that would
end or distort the quotation, are written as escapes. -/

namespace CilEdit.Text

/-- Whether a code point lies in one of the ranges. -/
def inRanges (ranges : Array (Nat × Nat)) (point : Nat) : Bool :=
  ranges.any fun range => range.1 ≤ point && point ≤ range.2

/-- The fillers of Hangul: letters by their category, but without a printed form. -/
def hangulFillers : Array (Nat × Nat) :=
  #[(0x115f, 0x1160), (0x3164, 0x3164), (0xffa0, 0xffa0)]

/-- The halfwidth sound marks of Katakana: they extend a character by their property, but are
printed as letters of their own. -/
def halfwidthSoundMarks : Array (Nat × Nat) := #[(0xff9e, 0xff9f)]

/-- Whether a character has a printed form. -/
def isPrintable (char : Char) : Bool :=
  !inRanges unprintable char.toNat && !inRanges hangulFillers char.toNat

/-- Whether a character is printed as a part of the one in front of it. -/
def isAttached (char : Char) : Bool :=
  inRanges graphemeExtend char.toNat && !inRanges halfwidthSoundMarks char.toNat

/-- Whether a character is legible by itself. -/
def isLegible (char : Char) : Bool := isPrintable char && !isAttached char

/-- A number in lower case hexadecimal without leading zeros. -/
def hexadecimal (number : Nat) : String := String.ofList (Nat.toDigits 16 number)

/-- A character as it stands between double quotes. -/
def quotedChar (char : Char) : String :=
  if char = '"' then "\\\""
  else if char = '\\' then "\\\\"
  else if char = '\t' then "\\t"
  else if char = '\n' then "\\n"
  else if char = '\r' then "\\r"
  else if char.toNat = 0 then "\\0"
  else if isLegible char then char.toString
  else "\\u\x7b" ++ hexadecimal char.toNat ++ "\x7d"

/-- A string between double quotes. -/
def quoted (text : String) : String :=
  "\"" ++ String.join (text.toList.map quotedChar) ++ "\""

end CilEdit.Text
