import CilEdit.Proofs.Rebase.Requests

/-! The pools number the local variables and the labels of some code. A pool answers each request with
the next identifier, so the counterparts are the numbers of first occurrence, and all that was given is
one stretch of the counter. -/

namespace CilEdit

open Rebase

/-! ### The counters -/

theorem Slot.toNat_next (slot : Slot) : slot.next.toNat = min (slot.toNat + 1) 65535 := by
  have hlt := slot.toNat_lt
  unfold Slot.next
  split
  · subst slot
    rfl
  · rename_i hslot
    have hne : slot.toNat ≠ 65535 := fun heq => hslot (UInt16.toNat_inj.mp heq)
    rw [UInt16.toNat_add, UInt16.toNat_one]
    omega

theorem Label.toNat_next (label : Label) : label.next.id.toNat = min (label.id.toNat + 1) 4294967295 := by
  have hlt := label.id.toNat_lt
  unfold Label.next
  split
  · rename_i hid
    rw [hid]
    rfl
  · rename_i hid
    have hne : label.id.toNat ≠ 4294967295 := fun heq => hid (UInt32.toNat_inj.mp heq)
    rw [UInt32.toNat_add, UInt32.toNat_one]
    omega

theorem Slot.counts : Counts UInt16.toNat Slot.next 65535 where
  injective _ _ heq := UInt16.toNat_inj.mp heq
  le_bound slot := Nat.le_of_lt_succ slot.toNat_lt
  toNat_next := Slot.toNat_next

theorem Label.counts : Counts (fun label : Label => label.id.toNat) Label.next 4294967295 where
  injective _ _ heq := congrArg Label.mk (UInt32.toNat_inj.mp heq)
  le_bound label := Nat.le_of_lt_succ label.id.toNat_lt
  toNat_next := Label.toNat_next

theorem SlotPool.countsOff (typeOf : Slot → Option TypeSig) :
    CountsOff (requestLocal typeOf : Slot → StateM SlotPool Relocation) Relocation.source
      Relocation.target SlotPool.next Slot.next :=
  ⟨fun _ _ => rfl, fun _ _ => rfl, fun _ _ => rfl⟩

theorem LabelPool.countsOff :
    CountsOff (requestLabel : Label → StateM LabelPool (Label × Label)) Prod.fst Prod.snd
      LabelPool.next Label.next :=
  ⟨fun _ _ => rfl, fun _ _ => rfl, fun _ _ => rfl⟩

/-- The pool keeps what it gives, with the types that it was asked for. -/
theorem SlotPool.allocated_requestLocal (typeOf : Slot → Option TypeSig) (slots : List Slot)
    (pool : SlotPool) :
    ((slots.mapM (requestLocal typeOf)).run pool).2.allocated = pool.allocated ++
      ((slots.mapM (requestLocal typeOf)).run pool).1.map
        fun relocation => (relocation.target, relocation.type) := by
  induction slots generalizing pool with
  | nil => exact (List.append_nil _).symm
  | cons slot slots ih =>
      rw [List.mapM_cons]
      refine (ih _).trans ?_
      exact List.append_assoc pool.allocated [(pool.next, typeOf slot)] _

/-! ### Counterparts from the pools -/

namespace Renaming

/-- Whether the counterparts of the local variables and the pool number the slots. -/
def NumbersLocals {τ : Type} (first : Nat) (slots : List Slot) (names : Renaming SlotPool τ) : Prop :=
  Numbered first 65535 slots (fun slot => (names.local? slot).map UInt16.toNat)
    names.localAllocator.next.toNat

/-- Whether the counterparts of the labels and the pool number the labels. -/
def NumbersLabels {σ : Type} (first : Nat) (labels : List Label) (names : Renaming σ LabelPool) :
    Prop :=
  Numbered first 4294967295 labels (fun label => (names.label? label).map fun target => target.id.toNat)
    names.labelAllocator.next.id.toNat

namespace Asked

variable {typeOf : Slot → Option TypeSig} {slots : List Slot} {keys : List Label}

theorem numbersLocals {τ : Type} [LabelAllocator τ] {locals : SlotPool} {labels : τ}
    {names : Renaming SlotPool τ} (h : names.Asked typeOf locals labels slots keys) :
    names.NumbersLocals locals.next.toNat slots :=
  h.locals.numbered (SlotPool.countsOff typeOf) Slot.counts h.local?_eq_none_iff
    fun _ => h.local?_of_mem

theorem numbersLabels {σ : Type} [LocalAllocator σ] {locals : σ} {labels : LabelPool}
    {names : Renaming σ LabelPool} (h : names.Asked typeOf locals labels slots keys) :
    names.NumbersLabels labels.next.id.toNat keys :=
  h.labels.numbered LabelPool.countsOff Label.counts h.label?_eq_none_iff fun _ => h.label?_of_mem

end Asked

end Renaming

end CilEdit
