import CilEdit.Instruction.Access
import Mathlib.Algebra.Group.Nat.Defs
import Mathlib.Tactic.SplitIfs

/-! Accesses to local variables as they are encoded. A macro form holds its slot in the opcode, a
short form in one byte and a long form in two. What `accessLocal` writes is read back, and no opcode
that could stand for the same access is shorter. -/

namespace CilEdit

namespace Opcode

/-- The number of bytes that the slot of a local variable takes behind the opcode. -/
def slotBytes : Opcode → Nat
  | .ldlocS | .ldlocaS | .stlocS => 1
  | .ldloc | .ldloca | .stloc => 2
  | _ => 0

/-- The number of bytes of an access to a local variable. -/
def accessBytes (opcode : Opcode) : Nat := (if opcode.isTwoByte then 2 else 1) + opcode.slotBytes

/-- Whether the opcode has room for the slot. -/
def holds (opcode : Opcode) (slot : Slot) : SlotForm → Bool
  | .implied own => own == slot
  | .operand => slot.toNat < 256 ^ opcode.slotBytes

/-- Whether the opcode can stand for the access of the given kind to the slot. -/
def CanAccess (opcode : Opcode) (kind : AccessKind) (slot : Slot) : Prop :=
  ∃ form, opcode.localAccess? = some ⟨kind, form⟩ ∧ opcode.holds slot form = true

/-- The long form is the only one with an opcode of two bytes. -/
theorem accessBytes_of_localAccess? {opcode : Opcode} {access : Access}
    (h : opcode.localAccess? = some access) :
    opcode.accessBytes = opcode.slotBytes + if opcode.slotBytes = 2 then 2 else 1 := by
  cases opcode <;> first | rfl | cases h

theorem two_le_accessBytes {opcode : Opcode} {kind : AccessKind}
    (h : opcode.localAccess? = some ⟨kind, .operand⟩) : 2 ≤ opcode.accessBytes := by
  cases opcode <;> first | decide | cases h

theorem one_le_accessBytes (opcode : Opcode) : 1 ≤ opcode.accessBytes := by
  unfold accessBytes
  split <;> omega

theorem four_le_accessBytes {opcode : Opcode} {kind : AccessKind} {slot : Slot}
    (h : opcode.localAccess? = some ⟨kind, .operand⟩) (hholds : opcode.holds slot .operand = true)
    (hslot : 255 < slot) : 4 ≤ opcode.accessBytes := by
  have hlarge : ¬slot.toNat < 256 := Nat.not_lt.mpr (UInt16.lt_iff_toNat_lt.mp hslot)
  cases opcode <;> first | decide | (cases h; done) | simp [holds, slotBytes, hlarge] at hholds

theorem implied_lt_four {opcode : Opcode} {kind : AccessKind} {slot : Slot}
    (h : opcode.localAccess? = some ⟨kind, .implied slot⟩) : kind ≠ .loadAddress ∧ slot < 4 := by
  cases opcode <;> cases h <;> decide

end Opcode

namespace Instruction

/-- Whether no opcode that could stand for the same access is shorter. -/
def IsShortest (instruction : Instruction) (kind : AccessKind) (slot : Slot) : Prop :=
  instruction.opcode.CanAccess kind slot ∧
    ∀ other : Opcode, other.CanAccess kind slot →
      instruction.opcode.accessBytes ≤ other.accessBytes

theorem localSlot?_accessLocal (kind : AccessKind) (slot : Slot) :
    (accessLocal kind slot).localSlot? = some slot := by
  cases kind <;> simp only [accessLocal, loadLocal, storeLocal, loadLocalAddress]
  all_goals split_ifs <;> simp_all [localSlot?, make, Opcode.localAccess?, SlotForm.slot?, Operand.localSlot?]

theorem localKind?_accessLocal (kind : AccessKind) (slot : Slot) :
    (accessLocal kind slot).localKind? = some kind := by
  cases kind <;> simp only [accessLocal, loadLocal, storeLocal, loadLocalAddress]
  all_goals split_ifs <;> rfl

theorem targets_accessLocal (kind : AccessKind) (slot : Slot) :
    (accessLocal kind slot).targets = [] := by
  cases kind <;> simp only [accessLocal, loadLocal, storeLocal, loadLocalAddress]
  all_goals split_ifs <;> rfl

theorem canAccess_accessLocal (kind : AccessKind) (slot : Slot) :
    (accessLocal kind slot).opcode.CanAccess kind slot := by
  have hlong : slot.toNat < 256 ^ 2 := slot.toNat_lt
  cases kind <;> simp only [accessLocal, loadLocal, storeLocal, loadLocalAddress]
  all_goals
    split_ifs <;> refine ⟨_, rfl, ?_⟩ <;>
      simp_all [Opcode.holds, Opcode.slotBytes, make, UInt16.le_iff_toNat_le, Nat.lt_succ_iff]

theorem slotBytes_accessLocal (kind : AccessKind) (slot : Slot) :
    (accessLocal kind slot).opcode.slotBytes =
      if kind ≠ .loadAddress ∧ slot < 4 then 0 else if slot ≤ 255 then 1 else 2 := by
  have hmacro : slot < 4 ↔ slot = 0 ∨ slot = 1 ∨ slot = 2 ∨ slot = 3 := by
    simp only [UInt16.lt_iff_toNat_lt, ← UInt16.toNat_inj, UInt16.reduceToNat]
    omega
  cases kind <;> simp only [accessLocal, loadLocal, storeLocal, loadLocalAddress, hmacro]
  all_goals split_ifs <;> simp_all <;> rfl

theorem accessBytes_accessLocal (kind : AccessKind) (slot : Slot) :
    (accessLocal kind slot).opcode.accessBytes =
      if kind ≠ .loadAddress ∧ slot < 4 then 1 else if slot ≤ 255 then 2 else 4 := by
  obtain ⟨form, hform, -⟩ := canAccess_accessLocal kind slot
  rw [Opcode.accessBytes_of_localAccess? hform, slotBytes_accessLocal]
  by_cases hmacro : kind ≠ .loadAddress ∧ slot < 4
  · simp only [if_pos hmacro]
    rfl
  · by_cases hshort : slot ≤ 255
    · simp only [if_neg hmacro, if_pos hshort]
      rfl
    · simp only [if_neg hmacro, if_neg hshort]
      rfl

theorem isShortest_accessLocal (kind : AccessKind) (slot : Slot) :
    (accessLocal kind slot).IsShortest kind slot := by
  refine ⟨canAccess_accessLocal kind slot, fun other hother => ?_⟩
  obtain ⟨form, hform, hholds⟩ := hother
  rw [accessBytes_accessLocal]
  cases form with
  | implied own =>
      obtain rfl : own = slot := by simpa [Opcode.holds] using hholds
      rw [if_pos (Opcode.implied_lt_four hform)]
      exact other.one_le_accessBytes
  | operand =>
      split_ifs with hmacro hshort
      · exact other.one_le_accessBytes
      · exact Opcode.two_le_accessBytes hform
      · exact Opcode.four_le_accessBytes hform hholds (UInt16.not_le.mp hshort)

theorem exists_localKind? {instruction : Instruction} {slot : Slot}
    (h : instruction.localSlot? = some slot) : ∃ kind, instruction.localKind? = some kind := by
  obtain ⟨access, haccess, -⟩ := Option.bind_eq_some_iff.mp h
  exact ⟨access.kind, by rw [localKind?, haccess, Option.map_some]⟩

theorem withLocal_eq {instruction : Instruction} {kind : AccessKind} {own : Slot}
    (hkind : instruction.localKind? = some kind) (hslot : instruction.localSlot? = some own)
    (slot : Slot) : instruction.withLocal slot =
      some { accessLocal kind slot with
        labels := instruction.labels, markers := instruction.markers } := by
  rw [withLocal, hkind, hslot]

end Instruction

end CilEdit
