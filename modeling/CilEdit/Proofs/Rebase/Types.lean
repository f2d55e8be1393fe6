import CilEdit.Proofs.Rebase.Answers
import CilEdit.Proofs.Rebase.Failure
import CilEdit.Proofs.Typing.Indices

/-! The types that moved local variables are declared with. The type of a variable is that of the value
that the donor stores into it first, or else its declared type. The same is found for a read of the
variable that stands right behind the first store, since the first store is then the nearest one. A
call hands these types to the pool, one for each local variable, in order of first access. -/

namespace CilEdit

open Rebase Renaming

/-- A read of a local variable has the type of what was stored last. -/
theorem Instruction.typeSource_loadLocal (slot : Slot) (method : Method) :
    (loadLocal slot).typeSource method = .slot slot :=
  typeSource_of_localKind? (localKind?_accessLocal .load slot) (localSlot?_accessLocal .load slot)
    method

namespace Code

/-- A read that is put right behind a store has the type of the stored value, or else the declared
type. -/
theorem pushedType_loadLocal_behind {code : Code} {store : Nat} {instruction : Instruction}
    {slot : Slot} (hget : code[store]? = some instruction) (hstores : instruction.storesTo slot)
    (method : Method) :
    pushedType (code.take (store + 1) ++ [.loadLocal slot]) method (store + 1) = do
      let stored ← code.stackType method store 0
      return stored.or (method.localType? slot) := by
  have hlength : (code.take (store + 1)).length = store + 1 :=
    List.length_take_of_le (List.getElem?_eq_some_iff.mp hget).1
  have hsite : site? (code.take (store + 1) ++ [.loadLocal slot]) (store + 1) =
      some ⟨.loadLocal slot, .ofList (instruction :: (code.take store).reverse)⟩ := by
    rw [← before_succ hget, site?, before, before, List.take_left' hlength,
      List.getElem?_append_right (Nat.le_of_eq hlength), hlength, Nat.sub_self]
    rfl
  rw [pushedType, hsite, stackType_eq_through]
  refine (Typing.resolve_eq_pushedType method _).trans ?_
  rw [Site.pushedType, Instruction.typeSource_loadLocal]
  refine (Trail.throughStore_eq _ method slot _).trans ?_
  rw [Trail.lastStore?_cons, if_pos hstores]
  rfl

end Code

/-- The type of a moved local variable is found by typing a read right behind its first store. -/
theorem Rebase.localType_eq_pushedType (donor : Code) (method : Method) (slot : Slot) :
    localType donor method slot =
      match donor.findIdx? fun instruction => instruction.storesTo slot with
      | none => .ok (method.localType? slot)
      | some store =>
        Code.pushedType (donor.take (store + 1) ++ [.loadLocal slot]) method (store + 1) := by
  rw [localType]
  cases hstore : donor.findIdx? fun instruction => instruction.storesTo slot with
  | none => rfl
  | some store =>
      obtain ⟨hlt, hstores, -⟩ := List.findIdx?_eq_some_iff_getElem.mp hstore
      exact (Code.pushedType_loadLocal_behind (List.getElem?_eq_getElem hlt) hstores method).symm

/-! ### Types in the pool -/

/-- The answers to requests are for the local variables in order, with their types. -/
theorem forall₂_requestLocal {σ : Type} [LocalAllocator σ] (typeOf : Slot → Option TypeSig)
    (slots : List Slot) (allocator : σ) :
    List.Forall₂ (fun slot relocation => relocation.source = slot ∧ relocation.type = typeOf slot)
      slots ((slots.mapM (requestLocal typeOf)).run allocator).1 := by
  induction slots generalizing allocator with
  | nil => exact .nil
  | cons slot slots ih =>
      rw [List.mapM_cons]
      exact .cons ⟨rfl, rfl⟩ (ih _)

/-- Rebasing that succeeds adds one entry to the pool for each local variable that the donor accesses,
in order of first access. The entry has the counterpart of the variable and the type that is found for
a read right behind its first store, or its declared type if the donor never stores into it. -/
theorem rebase_types_locals {τ : Type} [LabelAllocator τ] {donor code : Code} {method : Method}
    {locals : SlotPool} {labels : τ}
    (h : (rebase donor method locals labels).result = .ok code) :
    let names := (rebase donor method locals labels).names
    ∃ entries, names.localAllocator.allocated = locals.allocated ++ entries ∧
      List.Forall₂ (fun slot entry => names.local? slot = some entry.1 ∧
        match donor.findIdx? fun instruction => instruction.storesTo slot with
        | none => entry.2 = method.localType? slot
        | some store => Code.pushedType (donor.take (store + 1) ++ [.loadLocal slot]) method
            (store + 1) = .ok entry.2) donor.slots.eraseDups entries := by
  intro names
  have hasked := asked_rebase h
  have hallocated := SlotPool.allocated_requestLocal (slotType donor method) donor.slots.eraseDups
    locals
  have hanswers := forall₂_requestLocal (slotType donor method) donor.slots.eraseDups locals
  rw [hasked.locals] at hallocated hanswers
  refine ⟨_, hallocated, ?_⟩
  rw [List.forall₂_map_right_iff, List.forall₂_iff_zip]
  obtain ⟨hlength, hpairs⟩ := List.forall₂_iff_zip.mp hanswers
  refine ⟨hlength, fun {slot relocation} hpair => ?_⟩
  obtain ⟨rfl, htype⟩ := hpairs hpair
  obtain ⟨hslot, hrelocation⟩ := List.of_mem_zip hpair
  have hlocalType := localType_of_result h (List.mem_eraseDups.mp hslot)
  rw [← htype, localType_eq_pushedType] at hlocalType
  refine ⟨hasked.local?_of_mem (List.mem_reverse.mp hrelocation), ?_⟩
  cases hstore : donor.findIdx? fun instruction => instruction.storesTo relocation.source with
  | none =>
      rw [hstore] at hlocalType
      exact (Except.ok.inj hlocalType).symm
  | some store =>
      rw [hstore] at hlocalType
      exact hlocalType

/-- A local variable that is read before it is stored into, with a value that comes through another
one, and a local variable that is neither declared nor stored into. -/
theorem rebase_types_locals_read_first :
    let donor : Code := [.make .ldloc1, .make .pop, .loadLong 5, .make .stloc0, .make .ldloc0,
      .make .stloc1, .make .ldloc2]
    let method : Method := ⟨.object, "Next", ⟨.plain, [], .void⟩, [.object]⟩
    let rebased := rebase donor method (SlotPool.startingAt 3) (LabelPool.mk ⟨0⟩)
    (∃ code, rebased.result = .ok code) ∧
      rebased.names.localAllocator.allocated.map Prod.snd = [some .int64, some .int64, none] := by
  intro donor method rebased
  have hrecursive (code : Code) (index : Nat) {site : Site} (hsite : code.site? index = some site) :
      code.pushedType method index = code.recursiveType method index := by
    rw [Code.pushedType, hsite]
    exact (Typing.resolve_eq_pushedType method site).trans
      (code.pushedType_eq_recursiveType method hsite)
  have hfirst : Code.pushedType (donor.take 4 ++ [.loadLocal 0]) method 4 = .ok (some .int64) :=
    (hrecursive _ 4 rfl).trans (by with_unfolding_all rfl)
  have hsecond : Code.pushedType (donor.take 6 ++ [.loadLocal 1]) method 6 = .ok (some .int64) :=
    (hrecursive _ 6 rfl).trans (by with_unfolding_all rfl)
  have htyped : ∀ slot ∈ donor.slots, ∀ failure, ¬Untyped donor method slot failure := by
    intro slot hslot failure huntyped
    rw [← localType_eq_error_iff, localType_eq_pushedType] at huntyped
    have hmem : slot = 0 ∨ slot = 1 ∨ slot = 2 := by
      have hslots : slot ∈ donor.slots.eraseDups := List.mem_eraseDups.mpr hslot
      rw [show donor.slots.eraseDups = [1, 0, 2] by decide] at hslots
      rw [List.mem_cons, List.mem_cons, List.mem_singleton] at hslots
      exact or_left_comm.mp hslots
    rcases hmem with rfl | rfl | rfl
    · cases hfirst.symm.trans huntyped
    · cases hsecond.symm.trans huntyped
    · cases huntyped
  obtain ⟨code, hcode⟩ := exists_result_of_typed htyped (SlotPool.startingAt 3) (LabelPool.mk ⟨0⟩)
  obtain ⟨entries, hallocated, hentries⟩ := rebase_types_locals hcode
  refine ⟨⟨code, hcode⟩, ?_⟩
  rw [show rebased.names.localAllocator.allocated = entries from hallocated]
  rw [show donor.slots.eraseDups = [1, 0, 2] by decide] at hentries
  obtain _ | ⟨⟨-, hone⟩, _ | ⟨⟨-, hzero⟩, _ | ⟨⟨-, htwo⟩, _ | _⟩⟩⟩ := hentries
  have honeType := Except.ok.inj (hsecond.symm.trans hone)
  have hzeroType := Except.ok.inj (hfirst.symm.trans hzero)
  rw [List.map_cons, List.map_cons, List.map_cons, List.map_nil, ← honeType, ← hzeroType,
    show _ = none from htwo]

end CilEdit
