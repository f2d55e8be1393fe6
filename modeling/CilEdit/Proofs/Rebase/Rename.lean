import CilEdit.Proofs.Instruction.Encoding

/-! Renaming the local variables and the labels of an instruction, slots by one map and labels by
another. The labels attached to it and its jump targets are mapped in order, and an access to a local
variable is written anew in the shortest form. -/

namespace CilEdit

theorem SlotForm.slot?_of_none {form : SlotForm} {slot : Slot} (h : form.slot? none = some slot)
    (slot? : Option Slot) : form.slot? slot? = some slot := by
  cases form with
  | implied own => exact h
  | operand => cases h

namespace Operand

/-- Whether the operand holds jump targets. -/
def isJump : Operand → Bool
  | .target _ | .switch _ => true
  | _ => false

/-- The operand with its jump targets mapped, if it holds any. -/
def jump? (g : Label → Label) : Operand → Option Operand
  | .target label => some (.target (g label))
  | .switch labels => some (.switch (labels.map g))
  | _ => Option.none

/-- The operand with its jump targets mapped. -/
def mapTargets (g : Label → Label) (operand : Operand) : Operand := (operand.jump? g).getD operand

theorem targets_mapTargets (g : Label → Label) (operand : Operand) :
    (operand.mapTargets g).targets = operand.targets.map g := by
  cases operand <;> rfl

theorem localSlot?_mapTargets (g : Label → Label) (operand : Operand) :
    (operand.mapTargets g).localSlot? = operand.localSlot? := by
  cases operand <;> rfl

theorem localSlot?_of_jump? {g : Label → Label} {operand jump : Operand}
    (h : operand.jump? g = some jump) : jump.localSlot? = Option.none := by
  cases operand <;> cases h <;> rfl

theorem jump?_eq_none {operand : Operand} (h : operand.isJump = false) (g : Label → Label) :
    operand.jump? g = Option.none := by
  cases operand <;> first | rfl | cases h

theorem targets_getD_jump? (g : Label → Label) (operand other : Operand)
    (h : operand.isJump = false → other.targets = []) :
    ((operand.jump? g).getD other).targets = operand.targets.map g := by
  cases operand <;> first | rfl | exact h rfl

theorem mapTargets_mapTargets (g g' : Label → Label) (operand : Operand) :
    (operand.mapTargets g).mapTargets g' = operand.mapTargets fun label => g' (g label) := by
  cases operand <;> simp [mapTargets, jump?]

theorem mapTargets_congr {g g' : Label → Label} {operand : Operand}
    (h : ∀ label ∈ operand.targets, g label = g' label) :
    operand.mapTargets g = operand.mapTargets g' := by
  cases operand with
  | target label => exact congrArg Operand.target (h label (List.mem_singleton_self label))
  | switch labels => exact congrArg Operand.switch (List.map_congr_left h)
  | _ => rfl

theorem isJump_mapTargets (g : Label → Label) (operand : Operand) :
    (operand.mapTargets g).isJump = operand.isJump := by
  cases operand <;> rfl

theorem targets_of_isJump_eq_false {operand : Operand} (h : operand.isJump = false) :
    operand.targets = [] := by
  cases operand <;> first | rfl | cases h

end Operand

namespace Instruction

/-- The instruction with its local variable mapped by `f` and its labels by `g`. -/
def rename (f : Slot → Slot) (g : Label → Label) (instruction : Instruction) : Instruction :=
  let moved := match instruction.localSlot? with
    | none => instruction
    | some slot => (instruction.withLocal (f slot)).getD instruction
  { moved with
    labels := instruction.labels.map g,
    operand := (instruction.operand.jump? g).getD moved.operand }

variable {f f' : Slot → Slot} {g g' : Label → Label}

theorem labels_rename (f : Slot → Slot) (g : Label → Label) (instruction : Instruction) :
    (instruction.rename f g).labels = instruction.labels.map g := rfl

theorem rename_of_none {instruction : Instruction} (h : instruction.localSlot? = none) :
    instruction.rename f g =
      { instruction with
        labels := instruction.labels.map g, operand := instruction.operand.mapTargets g } := by
  rw [rename, h]
  rfl

theorem rename_of_some {instruction : Instruction} {kind : AccessKind} {slot : Slot}
    (hkind : instruction.localKind? = some kind) (hslot : instruction.localSlot? = some slot) :
    instruction.rename f g =
      { accessLocal kind (f slot) with
        labels := instruction.labels.map g, markers := instruction.markers,
        operand := (instruction.operand.jump? g).getD (accessLocal kind (f slot)).operand } := by
  rw [rename, hslot]
  simp only [withLocal_eq hkind hslot, Option.getD_some]

theorem markers_rename (f : Slot → Slot) (g : Label → Label) (instruction : Instruction) :
    (instruction.rename f g).markers = instruction.markers := by
  cases hslot : instruction.localSlot? with
  | none => rw [rename_of_none hslot]
  | some slot =>
      obtain ⟨kind, hkind⟩ := exists_localKind? hslot
      rw [rename_of_some hkind hslot]

theorem targets_rename (f : Slot → Slot) (g : Label → Label) (instruction : Instruction) :
    (instruction.rename f g).targets = instruction.targets.map g := by
  cases hslot : instruction.localSlot? with
  | none =>
      rw [rename_of_none hslot]
      exact Operand.targets_mapTargets g instruction.operand
  | some slot =>
      obtain ⟨kind, hkind⟩ := exists_localKind? hslot
      rw [rename_of_some hkind hslot]
      exact Operand.targets_getD_jump? g _ _ fun _ => targets_accessLocal kind (f slot)

/-- A renamed instruction accesses no other local variable than the counterpart of its own. -/
theorem exists_localSlot?_of_rename {instruction : Instruction} {target : Slot}
    (h : (instruction.rename f g).localSlot? = some target) :
    ∃ slot, instruction.localSlot? = some slot ∧ f slot = target := by
  cases hslot : instruction.localSlot? with
  | none =>
      rw [rename_of_none hslot, localSlot?, Operand.localSlot?_mapTargets] at h
      cases hslot.symm.trans h
  | some slot =>
      obtain ⟨kind, hkind⟩ := exists_localKind? hslot
      rw [rename_of_some hkind hslot] at h
      refine ⟨slot, rfl, Option.some.inj ?_⟩
      rw [← localSlot?_accessLocal kind (f slot), ← h]
      cases hjump : instruction.operand.jump? g with
      | none => rfl
      | some jump =>
          rw [hjump] at h
          obtain ⟨access, haccess, htarget⟩ := Option.bind_eq_some_iff.mp h
          have hnone : jump.localSlot? = none := Operand.localSlot?_of_jump? hjump
          simp only [Option.getD_some, localSlot?] at haccess htarget ⊢
          rw [hnone] at htarget ⊢
          rw [haccess, Option.bind_some, Option.bind_some, htarget,
            SlotForm.slot?_of_none htarget]

/-- Only what the maps make of the slot and the labels of the instruction counts. -/
theorem rename_congr {instruction : Instruction}
    (hf : ∀ slot, instruction.localSlot? = some slot → f slot = f' slot)
    (hlabels : ∀ label ∈ instruction.labels, g label = g' label)
    (htargets : ∀ label ∈ instruction.targets, g label = g' label) :
    instruction.rename f g = instruction.rename f' g' := by
  have hmap : instruction.labels.map g = instruction.labels.map g' := List.map_congr_left hlabels
  have hjump : instruction.operand.jump? g = instruction.operand.jump? g' := by
    unfold targets at htargets
    cases hoperand : instruction.operand <;> rw [hoperand] at htargets <;>
      simp_all [Operand.jump?, Operand.targets]
  rw [rename, rename, hmap, hjump]
  cases hslot : instruction.localSlot? with
  | none => rfl
  | some slot => simp only [hf slot hslot]

/-- Whether an instruction is another with its local variable mapped by `f` and its labels by `g`: an
access stays an access of its kind, in the shortest form for the new slot, and anything else keeps
its opcode and all of its operand but the jump targets. -/
structure Renamed (f : Slot → Slot) (g : Label → Label) (before after : Instruction) : Prop where
  labels : after.labels = before.labels.map g
  targets : after.targets = before.targets.map g
  markers : after.markers = before.markers
  other : before.localSlot? = none →
    after.opcode = before.opcode ∧ after.operand = before.operand.mapTargets g
  access : ∀ slot, before.localSlot? = some slot → ∃ kind, before.localKind? = some kind ∧
    after.localKind? = some kind ∧ after.localSlot? = some (f slot) ∧
    after.IsShortest kind (f slot) ∧ after.operand = (accessLocal kind (f slot)).operand

/-- Whether no opcode for accesses to local variables stands with jump targets. -/
def PlainAccess (instruction : Instruction) : Prop :=
  instruction.opcode.localAccess?.isSome = true → instruction.operand.isJump = false

instance : DecidablePred PlainAccess := fun _ => inferInstanceAs (Decidable (_ → _))

theorem PlainAccess.isJump_eq_false {instruction : Instruction} (h : instruction.PlainAccess)
    {slot : Slot} (hslot : instruction.localSlot? = some slot) :
    instruction.operand.isJump = false := by
  obtain ⟨access, haccess, -⟩ := Option.bind_eq_some_iff.mp hslot
  exact h (by rw [haccess]; rfl)

theorem isJump_accessLocal (kind : AccessKind) (slot : Slot) :
    (accessLocal kind slot).operand.isJump = false := by
  cases kind <;> simp only [accessLocal, loadLocal, storeLocal, loadLocalAddress]
  all_goals split_ifs <;> rfl

theorem PlainAccess.rename {instruction : Instruction} (h : instruction.PlainAccess)
    (f : Slot → Slot) (g : Label → Label) : (instruction.rename f g).PlainAccess := by
  intro haccess
  cases hslot : instruction.localSlot? with
  | none =>
      rw [rename_of_none hslot] at haccess ⊢
      exact (Operand.isJump_mapTargets g _).trans (h haccess)
  | some slot =>
      obtain ⟨kind, hkind⟩ := exists_localKind? hslot
      rw [rename_of_some hkind hslot, Operand.jump?_eq_none (h.isJump_eq_false hslot)]
      exact isJump_accessLocal kind (f slot)

theorem renamed_rename {instruction : Instruction} (h : instruction.PlainAccess)
    (f : Slot → Slot) (g : Label → Label) : instruction.Renamed f g (instruction.rename f g) where
  labels := labels_rename f g instruction
  targets := targets_rename f g instruction
  markers := markers_rename f g instruction
  other hslot := by
    rw [rename_of_none hslot]
    exact ⟨rfl, rfl⟩
  access slot hslot := by
    obtain ⟨kind, hkind⟩ := exists_localKind? hslot
    have hjump := Operand.jump?_eq_none (h.isJump_eq_false hslot) g
    rw [rename_of_some hkind hslot, hjump]
    exact ⟨kind, hkind, localKind?_accessLocal kind (f slot), localSlot?_accessLocal kind (f slot),
      isShortest_accessLocal kind (f slot), rfl⟩

end Instruction

end CilEdit
