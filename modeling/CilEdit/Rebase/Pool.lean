import CilEdit.Instruction.Access

/-! Fresh local variables and labels for code that is moved into another method. Any state with an
operation that hands out the next identifier will do. The pools count upwards from a first
identifier; a pool that has reached the greatest identifier stays there. -/

namespace CilEdit

class LocalAllocator (σ : Type) where
  /-- the next local variable, for values of the given type, and the state after it -/
  allocateLocal : σ → Option TypeSig → Slot × σ

class LabelAllocator (τ : Type) where
  /-- the next label and the state after it -/
  allocateLabel : τ → Label × τ

/-- The slot after `slot`; the greatest slot is followed by itself. -/
def Slot.next (slot : Slot) : Slot := if slot = 65535 then slot else slot + 1

/-- The label after `label`; the greatest label is followed by itself. -/
def Label.next (label : Label) : Label := if label.id = 4294967295 then label else ⟨label.id + 1⟩

/-- A counter of local variables that keeps what it handed out. -/
structure SlotPool where
  next : Slot
  /-- the slots handed out so far with the types that were asked for, in order -/
  allocated : List (Slot × Option TypeSig)
  deriving DecidableEq

namespace SlotPool

def startingAt (first : Slot) : SlotPool := ⟨first, []⟩

instance : LocalAllocator SlotPool where
  allocateLocal pool type :=
    (pool.next, ⟨pool.next.next, pool.allocated ++ [(pool.next, type)]⟩)

/-- Declares one local variable. Slots before it that are not declared become objects. -/
def declareLocal (locals : List TypeSig) (slot : Slot) (type : TypeSig) : List TypeSig :=
  (locals.rightpad (slot.toNat + 1) .object).set slot.toNat type

/-- Declares every local variable that was handed out; those of unknown type become objects. -/
def declareOn (pool : SlotPool) (method : Method) : Method :=
  { method with
    locals := pool.allocated.foldl
      (fun locals entry => declareLocal locals entry.1 (entry.2.getD .object)) method.locals }

end SlotPool

structure LabelPool where
  next : Label
  deriving DecidableEq

instance : LabelAllocator LabelPool where
  allocateLabel pool := (pool.next, ⟨pool.next.next⟩)

/-- The fresh identifiers of a method that receives code. -/
structure Scope where
  locals : SlotPool
  labels : LabelPool
  deriving DecidableEq

namespace Scope

def startingAt (firstLocal : Slot) (firstLabel : Label) : Scope :=
  ⟨.startingAt firstLocal, ⟨firstLabel⟩⟩

/-- The first slot behind all declared ones, capped at the greatest slot, and behind all that the
code accesses. -/
def firstFreeLocal (method : Method) (code : Code) : Slot :=
  (code.filterMap Instruction.localSlot?).foldl (fun first slot => max first slot.next)
    (UInt16.ofNat (min method.locals.length 65535))

/-- The labels that are attached to an instruction or that it may jump to. -/
def labelsOf (instruction : Instruction) : List Label := instruction.labels ++ instruction.targets

/-- The first label behind all that occur in the code. -/
def firstFreeLabel (code : Code) : Label :=
  ⟨(code.flatMap labelsOf).foldl (fun first label => max first label.next.id) 0⟩

/-- Identifiers that `method` with its `code` does not use. -/
def forBody (method : Method) (code : Code) : Scope :=
  .startingAt (firstFreeLocal method code) (firstFreeLabel code)

end Scope

end CilEdit
