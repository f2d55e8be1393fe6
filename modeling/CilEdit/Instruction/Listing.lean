import CilEdit.Decimal.Notation
import CilEdit.Instruction.Basic
import CilEdit.Text.Quoted

/-! Instructions as lines of assembly text. -/

namespace CilEdit

/-- A number with zeros in front, at least `width` digits long. -/
def padded (width number : Nat) : String :=
  let digits := toString number
  String.ofList (List.replicate (width - digits.length) '0') ++ digits

def Label.text (label : Label) : String := "L_" ++ padded 4 label.id.toNat

def Immediate.text : Immediate → String
  | .int8 value => toString value.toInt
  | .uint8 value => toString value.toNat
  | .int16 value => toString value.toInt
  | .uint16 value => toString value.toNat
  | .int32 value => toString value.toInt
  | .uint32 value => toString value.toNat
  | .int64 value => toString value.toInt
  | .uint64 value => toString value.toInt64.toInt
  | .float32 value => (Decimal.Binary.ofFloat32 value).plainText
  | .float64 value => (Decimal.Binary.ofFloat value).plainText

/-- The operand in assembly text, where there is one. -/
def Operand.text? : Operand → Option String
  | .none => Option.none
  | .immediate value => some value.text
  | .target label => some label.text
  | .switch labels => some ("(" ++ ", ".intercalate (labels.map Label.text) ++ ")")
  | .localSlot slot => some s!"V_{slot.toNat}"
  | .argument slot => some s!"A_{slot.toNat}"
  | .field ref => some ref.text
  | .method ref => some ref.text
  | .signature sig => some sig.text
  | .type sig => some sig.text
  | .string value => some (Text.quoted value)

/-- The instruction in assembly text: its labels, its mnemonic and its operand. -/
def Instruction.text (instruction : Instruction) : String :=
  String.join (instruction.labels.map fun label => label.text ++ ": ") ++
    instruction.mnemonic ++
    (match instruction.operand.text? with
    | some operand => " " ++ operand
    | none => "")

end CilEdit
