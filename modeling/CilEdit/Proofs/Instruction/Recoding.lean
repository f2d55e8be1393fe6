import CilEdit.Proofs.Instruction.Encoding
import CilEdit.Stack.Effect

/-! Accesses that are moved to another slot. A moved access does what it did before, to the new slot:
it is of the same kind, so it takes and leaves as many values, and it keeps its labels and markers. Its
opcode is the shortest that has room for the slot. Only the kind and the new slot decide how it is
written, so an access that is moved twice is as if it were moved once. -/

namespace CilEdit

/-! ### Accesses and the stack -/

/-- The effect of an access on the stack. -/
def AccessKind.effect : AccessKind → OpcodeEffect
  | .load | .loadAddress => .fixed 0 1
  | .store => .fixed 1 0

theorem Opcode.effect_of_localAccess? {opcode : Opcode} {access : Access}
    (h : opcode.localAccess? = some access) : opcode.effect = access.kind.effect := by
  cases opcode <;> cases h <;> rfl

namespace Instruction

theorem effect_of_localKind? {instruction : Instruction} {kind : AccessKind}
    (h : instruction.localKind? = some kind) : instruction.opcode.effect = kind.effect := by
  obtain ⟨access, haccess, rfl⟩ := Option.map_eq_some_iff.mp h
  exact Opcode.effect_of_localAccess? haccess

/-- Accesses of one kind have the same effect on the stack. -/
theorem exists_stackEffect_of_localKind? {instruction other : Instruction} {kind : AccessKind}
    (h : instruction.localKind? = some kind) (hother : other.localKind? = some kind) :
    ∃ effect, instruction.stackEffect = .ok effect ∧ other.stackEffect = .ok effect := by
  rw [stackEffect, stackEffect, effect_of_localKind? h, effect_of_localKind? hother]
  cases kind <;> exact ⟨_, rfl, rfl⟩

/-! ### Moved accesses -/

theorem withLocal_of_none {instruction : Instruction} (h : instruction.localSlot? = none)
    (slot : Slot) : instruction.withLocal slot = none := by
  rw [withLocal, h]
  cases instruction.localKind? <;> rfl

theorem withLocal_eq_none_iff (instruction : Instruction) (slot : Slot) :
    instruction.withLocal slot = none ↔ instruction.localSlot? = none := by
  refine ⟨fun hnone => ?_, fun h => withLocal_of_none h slot⟩
  cases hslot : instruction.localSlot? with
  | none => rfl
  | some own =>
      obtain ⟨kind, hkind⟩ := exists_localKind? hslot
      cases hnone.symm.trans (withLocal_eq hkind hslot slot)

/-- Moving an access again forgets where it was moved first. -/
theorem withLocal_withLocal (instruction : Instruction) (slot last : Slot) :
    ((instruction.withLocal slot).bind fun moved => moved.withLocal last) =
      instruction.withLocal last := by
  cases hslot : instruction.localSlot? with
  | none =>
      rw [withLocal_of_none hslot, withLocal_of_none hslot]
      rfl
  | some own =>
      obtain ⟨kind, hkind⟩ := exists_localKind? hslot
      let moved : Instruction :=
        { accessLocal kind slot with labels := instruction.labels, markers := instruction.markers }
      have hmovedKind : moved.localKind? = some kind := localKind?_accessLocal kind slot
      have hmovedSlot : moved.localSlot? = some slot := localSlot?_accessLocal kind slot
      rw [withLocal_eq hkind hslot, withLocal_eq hkind hslot, Option.bind_some]
      exact withLocal_eq hmovedKind hmovedSlot last

/-- Moving an access to another slot is a faithful change of its code. There is a moved access just
where there is an access with a slot, whatever else its operand may be. It is read back as an access of
the same kind to the new slot, with the same effect on the stack, the same labels and the same markers,
and no opcode that could stand for it is shorter: the slot is written in the opcode for the first four
slots of a load or a store, in one byte up to slot 255 and in two bytes from there on. Moving twice is
moving to the last slot. -/
theorem withLocal_recodes (instruction : Instruction) (slot : Slot) :
    (instruction.withLocal slot = none ↔ instruction.localSlot? = none) ∧
    (∀ own, instruction.localSlot? = some own → ∃ moved kind effect,
      instruction.withLocal slot = some moved ∧ moved.localSlot? = some slot ∧
      instruction.localKind? = some kind ∧ moved.localKind? = some kind ∧
      instruction.stackEffect = .ok effect ∧ moved.stackEffect = .ok effect ∧
      moved.labels = instruction.labels ∧ moved.markers = instruction.markers ∧
      moved.IsShortest kind slot ∧
      moved.opcode.slotBytes =
        if kind ≠ .loadAddress ∧ slot < 4 then 0 else if slot ≤ 255 then 1 else 2) ∧
    ∀ last, ((instruction.withLocal slot).bind fun moved => moved.withLocal last) =
      instruction.withLocal last := by
  refine ⟨instruction.withLocal_eq_none_iff slot, fun own hslot => ?_,
    instruction.withLocal_withLocal slot⟩
  obtain ⟨kind, hkind⟩ := exists_localKind? hslot
  let moved : Instruction :=
    { accessLocal kind slot with labels := instruction.labels, markers := instruction.markers }
  have hmoved : moved.localKind? = some kind := localKind?_accessLocal kind slot
  obtain ⟨effect, heffect, hmovedEffect⟩ := exists_stackEffect_of_localKind? hkind hmoved
  exact ⟨moved, kind, effect, withLocal_eq hkind hslot slot, localSlot?_accessLocal kind slot, hkind,
    hmoved, heffect, hmovedEffect, rfl, rfl, isShortest_accessLocal kind slot,
    slotBytes_accessLocal kind slot⟩

/-- A store in the long form whose slot needs two bytes, and then none. A macro form reads its slot from
the opcode, whatever its operand is, and an access without a slot cannot be moved. -/
theorem withLocal_recodes_store :
    let store : Instruction := ⟨.stloc, .localSlot 300, [⟨7⟩], [⟨.endRegion, none⟩]⟩
    let odd : Instruction := ⟨.ldloc2, .string "slot", [], []⟩
    store.localSlot? = some 300 ∧
      (∃ moved, store.withLocal 256 = some moved ∧ moved.localSlot? = some 256 ∧
        moved.labels = [⟨7⟩] ∧ moved.opcode.slotBytes = 2) ∧
      ((store.withLocal 256).bind fun moved => moved.withLocal 3) = store.withLocal 3 ∧
      odd.localSlot? = some 2 ∧ (∃ moved, odd.withLocal 4 = some moved ∧ moved.opcode.slotBytes = 1) ∧
      (Instruction.make .ldloc).withLocal 0 = none := by
  intro store odd
  have hstore : store.localSlot? = some 300 := rfl
  have hodd : odd.localSlot? = some 2 := rfl
  obtain ⟨-, hmoves, htwice⟩ := withLocal_recodes store 256
  obtain ⟨moved, kind, effect, hmoved, hslot, hkind, -, -, -, hlabels, -, -, hbytes⟩ :=
    hmoves 300 hstore
  obtain ⟨other, otherKind, -, hother, -, hotherKind, -, -, -, -, -, -, hotherBytes⟩ :=
    (withLocal_recodes odd 4).2.1 2 hodd
  cases hkind
  cases hotherKind
  exact ⟨hstore, ⟨moved, hmoved, hslot, hlabels, hbytes⟩, htwice 3, hodd,
    ⟨other, hother, hotherBytes⟩, (withLocal_recodes (.make .ldloc) 0).1.mpr rfl⟩

end Instruction

end CilEdit
