import CilEdit.Proofs.Rebase.Run
import CilEdit.Proofs.Typing.Transport
import CilEdit.Proofs.Unmarked.Matching

/-! What is asked about code without its exception region markers. Effects on the stack, accesses and
sources of types do not involve markers, so producers and types are the same. A renaming goes over
slots and labels only: with and without markers it asks the same identifiers of the allocators in the
same order, and an instruction keeps its markers. -/

namespace CilEdit

/-! ### Producers and types -/

/-- A failure tells opcode and operand only, so it is told as it was. -/
theorem Instruction.stackEffect_unmarked (instruction : Instruction) :
    instruction.unmarked.stackEffect = instruction.stackEffect.mapError id :=
  (mapError_id _).symm

/-- Taking the markers off carries the search for types along. -/
theorem transport_unmarked (method : Method) :
    Transport method method (Site.map Instruction.unmarked) id id fun _ => True :=
  transport_map (fun _ => rfl) rfl rfl

namespace Code

variable (code : Code)

theorem producer?_unmarked (index above : Nat) :
    code.unmarked.producer? index above = code.producer? index above := by
  rw [unmarked, producer?_map Instruction.stackEffect_unmarked, mapError_id]

theorem pushedType_unmarked (method : Method) (index : Nat) :
    code.unmarked.pushedType method index = code.pushedType method index := by
  have htype := (transport_unmarked method).pushedType_code (code.site?_map index) fun _ _ => trivial
  rwa [mapError_id] at htype

theorem stackType_unmarked (method : Method) (index above : Nat) :
    code.unmarked.stackType method index above = code.stackType method index above := by
  have htransport := transport_unmarked method
  have hthrough := htransport.through ⟨.make .nop, code.before index⟩ trivial above
    fun producer _ => htransport.pushedType trivial
  rw [mapError_id] at hthrough
  rw [stackType_eq_through, stackType_eq_through, unmarked, before_map]
  exact hthrough

end Code

/-! ### Renamings -/

/-- An access that moves takes its markers along. -/
theorem Instruction.withLocal_unmarked (instruction : Instruction) (slot : Slot) :
    instruction.unmarked.withLocal slot = (instruction.withLocal slot).map unmarked := by
  rw [withLocal, withLocal,
    show instruction.unmarked.localKind? = instruction.localKind? from rfl,
    show instruction.unmarked.localSlot? = instruction.localSlot? from rfl]
  cases instruction.localKind? <;> cases instruction.localSlot? <;> rfl

namespace Rebase

variable {σ τ : Type} [LocalAllocator σ] [LabelAllocator τ] (donor : Code) (method : Method)

theorem localType_unmarked : localType donor.unmarked method = localType donor method := by
  funext slot
  have hstore : donor.unmarked.findIdx? (fun instruction => instruction.storesTo slot) =
      donor.findIdx? fun instruction => instruction.storesTo slot := List.findIdx?_map
  rw [localType, localType, hstore]
  cases donor.findIdx? fun instruction => instruction.storesTo slot with
  | none => rfl
  | some store => simp only [Code.stackType_unmarked]

omit [LabelAllocator τ] in
theorem renameAccess_unmarked (instruction : Instruction) :
    (renameAccess donor.unmarked method instruction.unmarked : RenameM σ τ Instruction) =
      Instruction.unmarked <$> renameAccess donor method instruction := by
  have hlocal : (renameLocal donor.unmarked method : Slot → RenameM σ τ Slot) =
      renameLocal donor method := by
    funext slot
    simp only [renameLocal, localType_unmarked]
  rw [renameAccess, renameAccess, hlocal,
    show instruction.unmarked.localSlot? = instruction.localSlot? from rfl]
  cases hslot : instruction.localSlot? with
  | none => rfl
  | some slot =>
      rw [map_bind]
      apply bind_congr
      intro target
      rw [map_pure, Instruction.withLocal_unmarked]
      cases instruction.withLocal target <;> rfl

theorem renameInstruction_unmarked (instruction : Instruction) :
    (renameInstruction donor.unmarked method instruction.unmarked : RenameM σ τ Instruction) =
      Instruction.unmarked <$> renameInstruction donor method instruction := by
  rw [renameInstruction, renameInstruction, renameAccess_unmarked, bind_map_left, map_bind]
  simp only [map_bind, map_pure]
  rfl

theorem mapM_renameInstruction_unmarked (code : Code) :
    (code.unmarked.mapM (renameInstruction donor.unmarked method) : RenameM σ τ Code) =
      Code.unmarked <$> code.mapM (renameInstruction donor method) := by
  induction code with
  | nil => rfl
  | cons instruction code ih =>
      rw [Code.unmarked_cons, List.mapM_cons, List.mapM_cons, renameInstruction_unmarked, ih]
      simp only [bind_map_left, map_bind, map_pure]
      rfl

end Rebase

/-- Rebased code without markers, with the same counterparts and allocators. -/
theorem rebase_unmarked {σ τ : Type} [LocalAllocator σ] [LabelAllocator τ] (donor : Code)
    (method : Method) (locals : σ) (labels : τ) :
    rebase donor.unmarked method locals labels =
      { rebase donor method locals labels with
        result := (rebase donor method locals labels).result.map Code.unmarked } := by
  rw [rebase, rebase, Rebase.mapM_renameInstruction_unmarked]
  simp only [EStateM.run, Functor.map, EStateM.map]
  cases donor.mapM (Rebase.renameInstruction donor method)
    (⟨[], [], locals, labels⟩ : Renaming σ τ) <;> rfl

theorem Scope.forBody_unmarked (method : Method) (code : Code) :
    forBody method code.unmarked = forBody method code := by
  have hslots : code.unmarked.filterMap Instruction.localSlot? =
      code.filterMap Instruction.localSlot? := List.filterMap_map
  have hlabels : code.unmarked.flatMap labelsOf = code.flatMap labelsOf := List.flatMap_map ..
  rw [forBody, forBody, firstFreeLocal, firstFreeLocal, firstFreeLabel, firstFreeLabel, hslots,
    hlabels]

/-- Code without markers is rebased alike also into a method whose code has no markers any more. -/
theorem Scope.rebase_unmarked (method donorMethod : Method) (code donor : Code) :
    (forBody method code.unmarked).rebase donor.unmarked donorMethod =
      { (forBody method code).rebase donor donorMethod with
        result := ((forBody method code).rebase donor donorMethod).result.map Code.unmarked } := by
  rw [forBody_unmarked]
  exact CilEdit.rebase_unmarked donor donorMethod _ _

theorem Rebased.log_unmarked {σ τ : Type} (rebased : Rebased σ τ) (method : Method) :
    Rebased.log { rebased with result := rebased.result.map Code.unmarked } method =
      rebased.log method := by
  obtain ⟨result, names⟩ := rebased
  cases result with
  | error failure => rfl
  | ok code => simp only [log, Except.map, Code.length_unmarked]

end CilEdit
