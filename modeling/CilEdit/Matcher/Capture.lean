import CilEdit.Instruction.Access
import CilEdit.Instruction.Listing

/-! What a matcher records of an instruction: the instruction itself, or what its operand means. -/

namespace CilEdit

/-- A recorded value. -/
inductive Capture where
  | instruction (instruction : Instruction)
  | operand (operand : Operand)
  /-- the local variable of an access, also where the opcode implies it -/
  | localSlot (slot : Slot)
  | argument (slot : Slot)
  | field (field : FieldRef)
  | method (method : MethodRef)
  | label (label : Label)

/-- Recorded values with the names under which they were recorded, in order. -/
abbrev Captures := List (String × Capture)

/-- The first value that was recorded under `name`. -/
def Captures.find? (captures : Captures) (name : String) : Option Capture :=
  captures.lookup name

namespace Capture

/-- What the operand alone means. -/
def ofPlainOperand : Operand → Capture
  | .field ref => .field ref
  | .method ref => .method ref
  | .target target => .label target
  | other => .operand other

/-- What the operand of an instruction means: the slot of an access before anything else. -/
def ofOperand (source : Instruction) : Capture :=
  match source.localSlot?, source.argumentSlot? with
  | some slot, _ => .localSlot slot
  | none, some slot => .argument slot
  | none, none => ofPlainOperand source.operand

def localSlot? : Capture → Option Slot
  | .localSlot slot => some slot
  | _ => none

def instruction? : Capture → Option Instruction
  | .instruction found => some found
  | _ => none

end Capture

end CilEdit
