import CilEdit.Instruction.Basic

/-! Accesses to local variables and arguments. Every access has a kind and a slot, and several
opcodes that differ only in how the slot is written: in the opcode itself, as one byte or as two.
`Instruction.localSlot?` reads the slot back from any form, `Instruction.accessLocal` writes the
shortest form, and `Instruction.withLocal` moves an access to another slot. -/

namespace CilEdit

inductive AccessKind where
  | load
  | loadAddress
  | store
  deriving DecidableEq

/-- Where the number of the slot is written. -/
inductive SlotForm where
  /-- in the opcode itself -/
  | implied (slot : Slot)
  /-- in the operand -/
  | operand
  deriving DecidableEq

/-- An access as its opcode describes it. -/
structure Access where
  kind : AccessKind
  form : SlotForm
  deriving DecidableEq

namespace Opcode

/-- The access to a local variable that an opcode stands for. -/
def localAccess? : Opcode → Option Access
  | .ldloc0 => some ⟨.load, .implied 0⟩
  | .ldloc1 => some ⟨.load, .implied 1⟩
  | .ldloc2 => some ⟨.load, .implied 2⟩
  | .ldloc3 => some ⟨.load, .implied 3⟩
  | .ldlocS => some ⟨.load, .operand⟩
  | .ldloc => some ⟨.load, .operand⟩
  | .ldlocaS => some ⟨.loadAddress, .operand⟩
  | .ldloca => some ⟨.loadAddress, .operand⟩
  | .stloc0 => some ⟨.store, .implied 0⟩
  | .stloc1 => some ⟨.store, .implied 1⟩
  | .stloc2 => some ⟨.store, .implied 2⟩
  | .stloc3 => some ⟨.store, .implied 3⟩
  | .stlocS => some ⟨.store, .operand⟩
  | .stloc => some ⟨.store, .operand⟩
  | _ => none

/-- The access to an argument that an opcode stands for. -/
def argumentAccess? : Opcode → Option Access
  | .ldarg0 => some ⟨.load, .implied 0⟩
  | .ldarg1 => some ⟨.load, .implied 1⟩
  | .ldarg2 => some ⟨.load, .implied 2⟩
  | .ldarg3 => some ⟨.load, .implied 3⟩
  | .ldargS => some ⟨.load, .operand⟩
  | .ldarg => some ⟨.load, .operand⟩
  | .ldargaS => some ⟨.loadAddress, .operand⟩
  | .ldarga => some ⟨.loadAddress, .operand⟩
  | .stargS => some ⟨.store, .operand⟩
  | .starg => some ⟨.store, .operand⟩
  | _ => none

end Opcode

/-- The slot of an access, given the slot in the operand if there is one. -/
def SlotForm.slot? : SlotForm → Option Slot → Option Slot
  | .implied slot, _ => some slot
  | .operand, slot? => slot?

namespace Instruction

/-! ### Reading an access -/

/-- What the instruction does with a local variable, by its opcode alone. -/
def localKind? (instruction : Instruction) : Option AccessKind :=
  instruction.opcode.localAccess?.map Access.kind

/-- The local variable that the instruction reads, writes or takes the address of. An access whose
operand holds no slot has none. -/
def localSlot? (instruction : Instruction) : Option Slot :=
  instruction.opcode.localAccess?.bind fun access =>
    access.form.slot? instruction.operand.localSlot?

/-- What the instruction does with an argument, by its opcode alone. -/
def argumentKind? (instruction : Instruction) : Option AccessKind :=
  instruction.opcode.argumentAccess?.map Access.kind

/-- The argument that the instruction reads, writes or takes the address of. -/
def argumentSlot? (instruction : Instruction) : Option Slot :=
  instruction.opcode.argumentAccess?.bind fun access =>
    access.form.slot? instruction.operand.argument?

def isLoadLocalAddress (instruction : Instruction) : Bool :=
  instruction.localKind? == some .loadAddress

/-- Whether the instruction pushes a local variable or its address. -/
def isLoadLocal (instruction : Instruction) : Bool :=
  instruction.localKind? == some .load || instruction.isLoadLocalAddress

def isStoreLocal (instruction : Instruction) : Bool := instruction.localKind? == some .store

def isLoadArgument (instruction : Instruction) : Bool :=
  instruction.argumentKind? == some .load || instruction.argumentKind? == some .loadAddress

def storesTo (instruction : Instruction) (slot : Slot) : Bool :=
  instruction.isStoreLocal && instruction.localSlot? == some slot

/-! ### Writing an access -/

/-- Pushes a local variable, in the shortest form. -/
def loadLocal (slot : Slot) : Instruction :=
  if slot = 0 then make .ldloc0
  else if slot = 1 then make .ldloc1
  else if slot = 2 then make .ldloc2
  else if slot = 3 then make .ldloc3
  else if slot ≤ 255 then make .ldlocS (.localSlot slot)
  else make .ldloc (.localSlot slot)

/-- Stores into a local variable, in the shortest form. -/
def storeLocal (slot : Slot) : Instruction :=
  if slot = 0 then make .stloc0
  else if slot = 1 then make .stloc1
  else if slot = 2 then make .stloc2
  else if slot = 3 then make .stloc3
  else if slot ≤ 255 then make .stlocS (.localSlot slot)
  else make .stloc (.localSlot slot)

/-- Pushes the address of a local variable, in the shortest form. -/
def loadLocalAddress (slot : Slot) : Instruction :=
  make (if slot ≤ 255 then .ldlocaS else .ldloca) (.localSlot slot)

/-- Accesses a local variable, in the shortest form for its slot. -/
def accessLocal : AccessKind → Slot → Instruction
  | .load, slot => loadLocal slot
  | .loadAddress, slot => loadLocalAddress slot
  | .store, slot => storeLocal slot

/-- Pushes an argument, in the shortest form. -/
def loadArgument (slot : Slot) : Instruction :=
  if slot = 0 then make .ldarg0
  else if slot = 1 then make .ldarg1
  else if slot = 2 then make .ldarg2
  else if slot = 3 then make .ldarg3
  else if slot ≤ 255 then make .ldargS (.argument slot)
  else make .ldarg (.argument slot)

/-- Pushes the address of an argument, in the shortest form. -/
def loadArgumentAddress (slot : Slot) : Instruction :=
  make (if slot ≤ 255 then .ldargaS else .ldarga) (.argument slot)

/-- Stores into an argument, in the shortest form. -/
def storeArgument (slot : Slot) : Instruction :=
  make (if slot ≤ 255 then .stargS else .starg) (.argument slot)

/-- The same access to local variable `slot`, in the shortest form, with labels and markers kept.
There is none for an instruction that accesses no local variable. -/
def withLocal (instruction : Instruction) (slot : Slot) : Option Instruction :=
  match instruction.localKind?, instruction.localSlot? with
  | some kind, some _ =>
    some { accessLocal kind slot with labels := instruction.labels, markers := instruction.markers }
  | _, _ => none

end Instruction

end CilEdit
