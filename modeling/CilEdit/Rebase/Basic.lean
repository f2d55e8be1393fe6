import CilEdit.LogEntry
import CilEdit.Rebase.Pool
import CilEdit.Typing.Query

/-! Rebasing: code from one method is given the local variables and labels of another. Every slot
and every label of the code gets a fresh counterpart when it first occurs and keeps it from then on.
Within an instruction the slot comes first, then the attached labels, then the jump targets. A moved
local variable has the type of the value that is stored into it first, or else its declared type. -/

namespace CilEdit

/-- A local variable and what became of it. -/
structure Relocation where
  /-- the slot in the code as it was -/
  source : Slot
  /-- the slot in the receiving method -/
  target : Slot
  type : Option TypeSig
  deriving DecidableEq

/-- The counterparts given out so far, the latest first, and the allocators. -/
structure Renaming (σ τ : Type) where
  locals : List Relocation
  labels : List (Label × Label)
  localAllocator : σ
  labelAllocator : τ

/-- Steps of a renaming. A step that fails leaves the counterparts given out before it. -/
abbrev RenameM (σ τ : Type) := EStateM Unsupported (Renaming σ τ)

namespace Renaming

def local? {σ τ : Type} (names : Renaming σ τ) (slot : Slot) : Option Slot :=
  (names.locals.find? fun relocation => relocation.source == slot).map Relocation.target

def label? {σ τ : Type} (names : Renaming σ τ) (label : Label) : Option Label :=
  names.labels.lookup label

end Renaming

namespace Rebase

variable {σ τ : Type} [LocalAllocator σ] [LabelAllocator τ]

/-- The type of the values of a local variable: that of the first store, or else the declared one.
-/
def localType (donor : Code) (method : Method) (slot : Slot) :
    Except Unsupported (Option TypeSig) :=
  match donor.findIdx? fun instruction => instruction.storesTo slot with
  | none => .ok (method.localType? slot)
  | some store => do
    let stored ← donor.stackType method store 0
    return stored.or (method.localType? slot)

/-- The counterpart of a local variable, given out now if it has none. -/
def renameLocal (donor : Code) (method : Method) (slot : Slot) : RenameM σ τ Slot := do
  let names ← get
  match names.local? slot with
  | some target => return target
  | none =>
    match localType donor method slot with
    | .error failure => throw failure
    | .ok type =>
      let (target, allocator) := LocalAllocator.allocateLocal names.localAllocator type
      set { names with
        locals := ⟨slot, target, type⟩ :: names.locals, localAllocator := allocator }
      return target

/-- The counterpart of a label, given out now if it has none. -/
def renameLabel (label : Label) : RenameM σ τ Label := do
  let names ← get
  match names.label? label with
  | some target => return target
  | none =>
    let (target, allocator) := LabelAllocator.allocateLabel names.labelAllocator
    set { names with
      labels := (label, target) :: names.labels, labelAllocator := allocator }
    return target

/-- The instruction with its local variable moved, in the shortest form for the new slot. -/
def renameAccess (donor : Code) (method : Method) (instruction : Instruction) :
    RenameM σ τ Instruction :=
  match instruction.localSlot? with
  | none => return instruction
  | some slot => do
    let target ← renameLocal donor method slot
    return (instruction.withLocal target).getD instruction

def renameTargets (operand : Operand) : RenameM σ τ (Option Operand) :=
  match operand with
  | .target label => return some (.target (← renameLabel label))
  | .switch labels => return some (.switch (← labels.mapM renameLabel))
  | _ => return none

/-- The instruction with its local variable, its labels and its targets renamed. -/
def renameInstruction (donor : Code) (method : Method) (instruction : Instruction) :
    RenameM σ τ Instruction := do
  let moved ← renameAccess donor method instruction
  let labels ← instruction.labels.mapM renameLabel
  let targets ← renameTargets instruction.operand
  return { moved with labels := labels, operand := targets.getD moved.operand }

end Rebase

/-- What came of rebasing some code. -/
structure Rebased (σ τ : Type) where
  result : Except Unsupported Code
  /-- the counterparts that were given out, and the allocators after it -/
  names : Renaming σ τ

/-- Moves the code `donor` of `method` to identifiers from the given allocators. -/
def rebase {σ τ : Type} [LocalAllocator σ] [LabelAllocator τ] (donor : Code) (method : Method)
    (locals : σ) (labels : τ) : Rebased σ τ :=
  match (donor.mapM (Rebase.renameInstruction donor method)).run ⟨[], [], locals, labels⟩ with
  | .ok code names => ⟨.ok code, names⟩
  | .error failure names => ⟨.error failure, names⟩

/-- Moves the code `donor` of `method` to fresh identifiers of a scope. -/
def Scope.rebase (scope : Scope) (donor : Code) (method : Method) : Rebased SlotPool LabelPool :=
  CilEdit.rebase donor method scope.locals scope.labels

/-- The scope that is left for further code. -/
def Rebased.scope (rebased : Rebased SlotPool LabelPool) : Scope :=
  ⟨rebased.names.localAllocator, rebased.names.labelAllocator⟩

def Relocation.logEntry (relocation : Relocation) : LogEntry :=
  let type := match relocation.type with
    | some type => type.text
    | none => "unknown"
  .debug s!"rebased local {relocation.source.toNat} -> {relocation.target.toNat} ({type})"

/-- What is logged about rebasing code of `method`: the moved local variables in order, and a
summary if it succeeded. -/
def Rebased.log {σ τ : Type} (rebased : Rebased σ τ) (method : Method) : List LogEntry :=
  let moves := rebased.names.locals.reverse.map Relocation.logEntry
  match rebased.result with
  | .error _ => moves
  | .ok code =>
    let locals := rebased.names.locals.length
    let labels := rebased.names.labels.length
    let counts := s!"{locals} local(s), {labels} label(s)"
    moves ++
      [.debug s!"rebased {code.length} instruction(s) from {method.fullName}: {counts}"]

end CilEdit
