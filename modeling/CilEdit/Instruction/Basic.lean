import CilEdit.Instruction.Operand
import CilEdit.Opcode.Table

/-! Instructions: an opcode with its operand, the labels attached to it and the exception region
markers that stand in front of it. Code is a list of instructions. -/

namespace CilEdit

/-- What an exception region marker begins or ends. -/
inductive MarkerKind where
  | beginTry
  | beginCatch
  | beginFilter
  | beginFinally
  | beginFault
  | endRegion
  deriving DecidableEq

/-- An exception region marker. It travels with its instruction and is never interpreted. -/
structure Marker where
  kind : MarkerKind
  /-- the type of exception that a catch handler takes -/
  caught : Option TypeSig
  deriving DecidableEq

/-- One instruction of a method body. -/
structure Instruction where
  opcode : Opcode
  operand : Operand
  /-- the labels that lead here -/
  labels : List Label
  /-- the exception regions that begin or end here -/
  markers : List Marker

/-- The instructions of a method body, or a fragment of one, in order. -/
abbrev Code := List Instruction

namespace Instruction

/-- Two instructions are the same when opcode, operand and labels are; markers do not count. -/
instance : BEq Instruction where
  beq left right :=
    left.opcode == right.opcode && left.operand == right.operand && left.labels == right.labels

/-- An instruction without labels and markers. -/
def make (opcode : Opcode) (operand : Operand := .none) : Instruction :=
  ⟨opcode, operand, [], []⟩

def withLabel (instruction : Instruction) (label : Label) : Instruction :=
  { instruction with labels := instruction.labels ++ [label] }

def withMarker (instruction : Instruction) (marker : Marker) : Instruction :=
  { instruction with markers := instruction.markers ++ [marker] }

/-! ### Constructors for common instructions -/

/-- The `ldc.i4` form that carries `value` in its opcode, where there is one. -/
def smallIntOpcode? (value : Int32) : Option Opcode :=
  if value = -1 then some .ldcI4M1
  else if value = 0 then some .ldcI4_0
  else if value = 1 then some .ldcI4_1
  else if value = 2 then some .ldcI4_2
  else if value = 3 then some .ldcI4_3
  else if value = 4 then some .ldcI4_4
  else if value = 5 then some .ldcI4_5
  else if value = 6 then some .ldcI4_6
  else if value = 7 then some .ldcI4_7
  else if value = 8 then some .ldcI4_8
  else none

/-- Pushes an integer of 32 bits in the shortest form. -/
def loadInt (value : Int32) : Instruction :=
  match smallIntOpcode? value with
  | some opcode => make opcode
  | none =>
    if -128 ≤ value ∧ value ≤ 127 then make .ldcI4S (.immediate (.int8 value.toInt8))
    else make .ldcI4 (.immediate (.int32 value))

def loadLong (value : Int64) : Instruction := make .ldcI8 (.immediate (.int64 value))

def loadFloat (value : Float32) : Instruction := make .ldcR4 (.immediate (.float32 value))

def loadDouble (value : Float) : Instruction := make .ldcR8 (.immediate (.float64 value))

def loadString (value : String) : Instruction := make .ldstr (.string value)

def call (method : MethodRef) : Instruction := make .call (.method method)

/-- Calls a method through the type of its receiver. -/
def callVirtual (method : MethodRef) : Instruction := make .callvirt (.method method)

def newObject (constructor : MethodRef) : Instruction := make .newobj (.method constructor)

def loadField (field : FieldRef) (isStatic : Bool) : Instruction :=
  make (if isStatic then .ldsfld else .ldfld) (.field field)

def storeField (field : FieldRef) (isStatic : Bool) : Instruction :=
  make (if isStatic then .stsfld else .stfld) (.field field)

def branch (opcode : Opcode) (target : Label) : Instruction := make opcode (.target target)

def ret : Instruction := make .ret

/-! ### Control flow and constants -/

def mnemonic (instruction : Instruction) : String := instruction.opcode.mnemonic

def flow (instruction : Instruction) : Flow := instruction.opcode.flow

/-- Whether the instruction may continue at a label of its operand. -/
def isBranch (instruction : Instruction) : Bool :=
  match instruction.flow with
  | .conditionalBranch | .unconditionalBranch | .switch | .leave => true
  | _ => false

/-- Whether the instruction ends a basic block. -/
def isTerminal (instruction : Instruction) : Bool :=
  match instruction.flow with
  | .conditionalBranch | .unconditionalBranch | .switch | .leave => true
  | .ret | .throw | .endFinally => true
  | _ => false

def targets (instruction : Instruction) : List Label := instruction.operand.targets

/-- The integer that a constant load pushes. -/
def intConstant? (instruction : Instruction) : Option Int64 :=
  match instruction.opcode with
  | .ldcI4M1 => some (-1)
  | .ldcI4_0 => some 0
  | .ldcI4_1 => some 1
  | .ldcI4_2 => some 2
  | .ldcI4_3 => some 3
  | .ldcI4_4 => some 4
  | .ldcI4_5 => some 5
  | .ldcI4_6 => some 6
  | .ldcI4_7 => some 7
  | .ldcI4_8 => some 8
  | .ldcI4S | .ldcI4 | .ldcI8 => instruction.operand.immediate?.bind Immediate.toInt64?
  | _ => none

/-- The number that a floating point constant load pushes. -/
def floatConstant? (instruction : Instruction) : Option Float :=
  match instruction.opcode with
  | .ldcR4 | .ldcR8 => instruction.operand.immediate?.bind Immediate.toFloat?
  | _ => none

end Instruction

end CilEdit
