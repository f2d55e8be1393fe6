import CilEdit.Opcode.Basic
import CilEdit.Method

/-! Operands. Jump targets are labels and members are references, so an operand means the same
wherever its instruction is moved. -/

namespace CilEdit

/-- A jump target by name. It is attached to one instruction of a list and used by branches. -/
structure Label where
  id : UInt32
  deriving DecidableEq

/-- A literal embedded in an instruction. Floating point literals compare as numbers, so a
not-a-number literal differs from itself and the two zeros agree. -/
inductive Immediate where
  | int8 (value : Int8)
  | uint8 (value : UInt8)
  | int16 (value : Int16)
  | uint16 (value : UInt16)
  | int32 (value : Int32)
  | uint32 (value : UInt32)
  | int64 (value : Int64)
  | uint64 (value : UInt64)
  | float32 (value : Float32)
  | float64 (value : Float)
  deriving BEq

namespace Immediate

/-- The integer that an integral literal puts on the stack. An unsigned literal of 64 bits is read
as the signed number with the same bits. -/
def toInt64? : Immediate → Option Int64
  | .int8 value => some value.toInt64
  | .uint8 value => some value.toUInt64.toInt64
  | .int16 value => some value.toInt64
  | .uint16 value => some value.toUInt64.toInt64
  | .int32 value => some value.toInt64
  | .uint32 value => some value.toUInt64.toInt64
  | .int64 value => some value
  | .uint64 value => some value.toInt64
  | .float32 _ => none
  | .float64 _ => none

/-- The number that a floating point literal puts on the stack. -/
def toFloat? : Immediate → Option Float
  | .float32 value => some value.toFloat
  | .float64 value => some value
  | _ => none

end Immediate

/-- What an instruction is applied to. Any opcode can carry any operand; `OperandKind.accepts` tells
which ones it should carry. -/
inductive Operand where
  | none
  | immediate (value : Immediate)
  | target (label : Label)
  | switch (labels : List Label)
  | localSlot (slot : Slot)
  | argument (slot : Slot)
  | field (field : FieldRef)
  | method (method : MethodRef)
  | signature (signature : MethodSig)
  | type (type : TypeSig)
  | string (value : String)
  deriving BEq

namespace Operand

/-- The labels that an instruction with this operand may jump to, in order. -/
def targets : Operand → List Label
  | .target label => [label]
  | .switch labels => labels
  | _ => []

def localSlot? : Operand → Option Slot
  | .localSlot slot => some slot
  | _ => Option.none

def argument? : Operand → Option Slot
  | .argument slot => some slot
  | _ => Option.none

def immediate? : Operand → Option Immediate
  | .immediate value => some value
  | _ => Option.none

def field? : Operand → Option FieldRef
  | .field ref => some ref
  | _ => Option.none

def method? : Operand → Option MethodRef
  | .method ref => some ref
  | _ => Option.none

def signature? : Operand → Option MethodSig
  | .signature sig => some sig
  | _ => Option.none

def type? : Operand → Option TypeSig
  | .type sig => some sig
  | _ => Option.none

end Operand

/-- Whether an operand has the shape that this kind asks for. The width of a literal is not
checked. -/
def OperandKind.accepts : OperandKind → Operand → Bool
  | .none, .none => true
  | .int8, .immediate _ => true
  | .uint8, .immediate _ => true
  | .int32, .immediate _ => true
  | .int64, .immediate _ => true
  | .float32, .immediate _ => true
  | .float64, .immediate _ => true
  | .localSlot, .localSlot _ => true
  | .argument, .argument _ => true
  | .target, .target _ => true
  | .switch, .switch _ => true
  | .field, .field _ => true
  | .method, .method _ => true
  | .signature, .signature _ => true
  | .type, .type _ => true
  | .string, .string _ => true
  | .token, .field _ => true
  | .token, .method _ => true
  | .token, .type _ => true
  | _, _ => false

end CilEdit
