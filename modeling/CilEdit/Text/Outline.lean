import CilEdit.Decimal.Notation
import CilEdit.Instruction.Operand
import CilEdit.Text.Quoted

/-! Outlines: the text in which diagnostics show the structure of a value. An alternative is its
name with its arguments in parentheses, a record its name with its fields in braces, a list its
items in brackets. -/

namespace CilEdit

namespace Outline

/-- An alternative with arguments. -/
def variant (name : String) (arguments : List String) : String :=
  name ++ "(" ++ ", ".intercalate arguments ++ ")"

def list (items : List String) : String := "[" ++ ", ".intercalate items ++ "]"

/-- A record. One that is open has more fields than are shown. -/
def record (name : String) (fields : List (String × String)) (isOpen : Bool := false) : String :=
  let shown := fields.map fun field => field.1 ++ ": " ++ field.2
  name ++ " \x7b " ++ ", ".intercalate (if isOpen then shown ++ [".."] else shown) ++ " \x7d"

def optional : Option String → String
  | some value => variant "Some" [value]
  | none => "None"

def bool (value : Bool) : String := if value then "true" else "false"

end Outline

open Outline

namespace TypeSig

def outline : TypeSig → String
  | .void => "Void"
  | .bool => "Bool"
  | .char => "Char"
  | .int8 => "I8"
  | .uint8 => "U8"
  | .int16 => "I16"
  | .uint16 => "U16"
  | .int32 => "I32"
  | .uint32 => "U32"
  | .int64 => "I64"
  | .uint64 => "U64"
  | .nativeInt => "NativeInt"
  | .nativeUInt => "NativeUInt"
  | .float32 => "F32"
  | .float64 => "F64"
  | .object => "Object"
  | .string => "String"
  | .classType name => variant "Class" [Text.quoted name]
  | .valueType name => variant "ValueType" [Text.quoted name]
  | .array element rank => variant "Array" [element.outline, toString rank.toNat]
  | .pointer target => variant "Pointer" [target.outline]
  | .byRef target => variant "ByRef" [target.outline]
  | .typeParam index => variant "GenericParam" [toString index.toNat]
  | .methodParam index => variant "MethodGenericParam" [toString index.toNat]
  | .typedReference => "TypedReference"

end TypeSig

/-- The outline of a convention: its named flags, and the bits that no flag names as one number. -/
def CallConv.outline (convention : CallConv) : String :=
  let rest := convention.unnamedBits
  let restText := "0x" ++ Text.hexadecimal rest.toNat
  let flags := convention.flags.map Prod.fst ++ (if rest = 0 then [] else [restText])
  variant "CallingConvention" [if flags.isEmpty then restText else " | ".intercalate flags]

def MethodSig.outline (signature : MethodSig) : String :=
  record "MethodSig" [("calling_convention", signature.convention.outline),
    ("params", list (signature.params.map TypeSig.outline)), ("ret", signature.result.outline)]

def FieldRef.outline (field : FieldRef) : String :=
  record "FieldRef" [("declaring_type", field.owner.outline), ("name", Text.quoted field.name),
    ("field_type", field.type.outline)]

def MethodRef.outline (method : MethodRef) : String :=
  record "MethodRef" [("declaring_type", method.owner.outline), ("name", Text.quoted method.name),
    ("signature", method.signature.outline)]

def Label.outline (label : Label) : String := variant "Label" [toString label.id.toNat]

def Immediate.outline : Immediate → String
  | .int8 value => variant "Int8" [toString value.toInt]
  | .uint8 value => variant "UInt8" [toString value.toNat]
  | .int16 value => variant "Int16" [toString value.toInt]
  | .uint16 value => variant "UInt16" [toString value.toNat]
  | .int32 value => variant "Int32" [toString value.toInt]
  | .uint32 value => variant "UInt32" [toString value.toNat]
  | .int64 value => variant "Int64" [toString value.toInt]
  | .uint64 value => variant "UInt64" [toString value.toNat]
  | .float32 value => variant "Float32" [(Decimal.Binary.ofFloat32 value).markedText]
  | .float64 value => variant "Float64" [(Decimal.Binary.ofFloat value).markedText]

def Operand.outline : Operand → String
  | .none => "None"
  | .immediate value => variant "Immediate" [value.outline]
  | .target label => variant "Target" [label.outline]
  | .switch labels => variant "Switch" [list (labels.map Label.outline)]
  | .localSlot slot => variant "Local" [toString slot.toNat]
  | .argument slot => variant "Argument" [toString slot.toNat]
  | .field ref => variant "Field" [ref.outline]
  | .method ref => variant "Method" [ref.outline]
  | .signature sig => variant "Signature" [sig.outline]
  | .type sig => variant "Type" [sig.outline]
  | .string value => variant "String" [Text.quoted value]

end CilEdit
