import CilEdit.Proofs.Rebase.Pools

/-! Rebasing with the pools is an injective renaming. The counterparts at the end are given on the
slots and the labels of the donor only; an injective map on all slots, and one on all labels, agree
with them there, and renaming by these maps gives the same code. -/

namespace CilEdit

open Rebase Renaming

instance : Finite Slot := Finite.of_injective UInt16.toFin fun _ _ => UInt16.toFin_inj.mp

instance : Finite Label :=
  Finite.of_injective (fun label => label.id.toFin) fun left right heq => by
    cases left
    cases right
    exact congrArg Label.mk (UInt32.toFin_inj.mp heq)

theorem Code.map_rename_congr {code : Code} {f f' : Slot → Slot} {g g' : Label → Label}
    (hf : ∀ slot ∈ code.slots, f slot = f' slot)
    (hg : ∀ label ∈ code.labelsInUse, g label = g' label) :
    (code.map fun instruction => instruction.rename f g) =
      code.map fun instruction => instruction.rename f' g' := by
  refine List.map_congr_left fun instruction hmem => ?_
  have hlabels : ∀ label ∈ Scope.labelsOf instruction, g label = g' label := fun label hlabel =>
    hg label (List.mem_flatMap.mpr ⟨instruction, hmem, hlabel⟩)
  refine Instruction.rename_congr (fun slot hslot => ?_) (fun label hlabel => ?_)
    (fun label hlabel => ?_)
  · exact hf slot (List.mem_filterMap.mpr ⟨instruction, hmem, hslot⟩)
  · exact hlabels label (List.mem_append_left _ hlabel)
  · exact hlabels label (List.mem_append_right _ hlabel)

theorem Code.forall₂_rename {code : Code}
    (h : ∀ instruction ∈ code, instruction.PlainAccess) (f : Slot → Slot) (g : Label → Label) :
    List.Forall₂ (Instruction.Renamed f g) code
      (code.map fun instruction => instruction.rename f g) := by
  rw [List.forall₂_map_right_iff, List.forall₂_same]
  exact fun instruction hmem => Instruction.renamed_rename (h instruction hmem) f g

/-! ### Counterparts from the pools -/

section Pools

variable {donor code : Code} {method : Method} {locals : SlotPool} {labels : LabelPool}

theorem toNat_next_lt_of_ne {slot : Slot} (h : slot ≠ 65535) : slot.toNat < 65535 := by
  have hlt := slot.toNat_lt
  have hne : slot.toNat ≠ 65535 := fun heq => h (UInt16.toNat_inj.mp heq)
  omega

theorem toNat_id_lt_of_ne {label : Label} (h : label ≠ ⟨4294967295⟩) :
    label.id.toNat < 4294967295 := by
  have hlt := label.id.toNat_lt
  have hne : label.id.toNat ≠ 4294967295 := fun heq =>
    h (congrArg Label.mk (UInt32.toNat_inj.mp heq))
  omega

/-- The counterparts of the slots are those of an injective map, in order of first access. -/
theorem exists_localMap (h : (rebase donor method locals labels).result = .ok code)
    (hlocals : (rebase donor method locals labels).names.localAllocator.next ≠ 65535) :
    ∃ f : Slot → Slot, f.Injective ∧
      (∀ slot ∈ donor.slots, (rebase donor method locals labels).names.localMap slot = f slot) ∧
      (donor.slots.eraseDups.map fun slot => (f slot).toNat) =
        List.range' locals.next.toNat donor.slots.eraseDups.length ∧
      (rebase donor method locals labels).names.localAllocator.next.toNat =
        locals.next.toNat + donor.slots.eraseDups.length := by
  have hnumbers := (asked_rebase h).numbersLocals
  have hlt := toNat_next_lt_of_ne hlocals
  obtain ⟨f, hinjective, htarget, hrange⟩ := Numbered.exists_injective hnumbers hlt
  refine ⟨f, hinjective, fun slot hslot => ?_, hrange, ?_⟩
  · rw [localMap, htarget slot hslot, Option.getD_some]
  · have := hnumbers.next_eq
    omega

/-- The counterparts of the labels are those of an injective map, in order of first occurrence. -/
theorem exists_labelMap (h : (rebase donor method locals labels).result = .ok code)
    (hlabels : (rebase donor method locals labels).names.labelAllocator.next ≠ ⟨4294967295⟩) :
    ∃ g : Label → Label, g.Injective ∧
      (∀ label ∈ donor.labelsInUse,
        (rebase donor method locals labels).names.labelMap label = g label) ∧
      (donor.labelsInUse.eraseDups.map fun label => (g label).id.toNat) =
        List.range' labels.next.id.toNat donor.labelsInUse.eraseDups.length ∧
      (rebase donor method locals labels).names.labelAllocator.next.id.toNat =
        labels.next.id.toNat + donor.labelsInUse.eraseDups.length := by
  have hnumbers := (asked_rebase h).numbersLabels
  have hlt := toNat_id_lt_of_ne hlabels
  obtain ⟨g, hinjective, htarget, hrange⟩ := Numbered.exists_injective hnumbers hlt
  refine ⟨g, hinjective, fun label hlabel => ?_, hrange, ?_⟩
  · rw [labelMap, htarget label hlabel, Option.getD_some]
  · have := hnumbers.next_eq
    omega

/-- Rebasing that succeeds, with pools that do not reach their greatest identifier, is a renaming by
injective maps that number the slots in order of first access, and the labels in order of first
occurrence. -/
theorem rebase_renames_injectively (hplain : ∀ instruction ∈ donor, instruction.PlainAccess)
    (hresult : (rebase donor method locals labels).result = .ok code)
    (hlocals : (rebase donor method locals labels).names.localAllocator.next ≠ 65535)
    (hlabels : (rebase donor method locals labels).names.labelAllocator.next ≠ ⟨4294967295⟩) :
    ∃ (f : Slot → Slot) (g : Label → Label), f.Injective ∧ g.Injective ∧
      List.Forall₂ (Instruction.Renamed f g) donor code ∧
      (donor.slots.eraseDups.map fun slot => (f slot).toNat) =
        List.range' locals.next.toNat donor.slots.eraseDups.length ∧
      (donor.labelsInUse.eraseDups.map fun label => (g label).id.toNat) =
        List.range' labels.next.id.toNat donor.labelsInUse.eraseDups.length ∧
      (rebase donor method locals labels).names.localAllocator.next.toNat =
        locals.next.toNat + donor.slots.eraseDups.length ∧
      (rebase donor method locals labels).names.labelAllocator.next.id.toNat =
        labels.next.id.toNat + donor.labelsInUse.eraseDups.length := by
  obtain ⟨f, hf, hlocalMap, hslots, hlocalNext⟩ := exists_localMap hresult hlocals
  obtain ⟨g, hg, hlabelMap, hnumbers, hlabelNext⟩ := exists_labelMap hresult hlabels
  refine ⟨f, g, hf, hg, ?_, hslots, hnumbers, hlocalNext, hlabelNext⟩
  rw [(eq_of_rebase hresult).2, Code.map_rename_congr hlocalMap hlabelMap]
  exact Code.forall₂_rename hplain f g

end Pools

/-- Code with a loop: slots and labels come back, and the jumps lead forwards and backwards. -/
theorem rebase_renames_loop :
    let donor : Code := [⟨.stloc0, .none, [⟨7⟩], []⟩, ⟨.ldlocS, .localSlot 300, [], []⟩,
      ⟨.brfalse, .target ⟨2⟩, [], []⟩, ⟨.br, .target ⟨7⟩, [], []⟩, ⟨.ldloc0, .none, [⟨2⟩], []⟩]
    let method : Method := ⟨.object, "Next", ⟨.plain, [], .int32⟩, [.int32]⟩
    let rebased := rebase donor method (SlotPool.startingAt 3) (LabelPool.mk ⟨10⟩)
    (∀ instruction ∈ donor, instruction.PlainAccess) ∧ rebased.names.localAllocator.next ≠ 65535 ∧
      rebased.names.labelAllocator.next ≠ ⟨4294967295⟩ ∧
      ∃ code, rebased.result = .ok code ∧
        ∃ (f : Slot → Slot) (g : Label → Label), f.Injective ∧ g.Injective ∧
          List.Forall₂ (Instruction.Renamed f g) donor code ∧
          [(f 0).toNat, (f 300).toNat] = [3, 4] ∧
          [(g ⟨7⟩).id.toNat, (g ⟨2⟩).id.toNat] = [10, 11] := by
  intro donor method rebased
  have hplain : ∀ instruction ∈ donor, instruction.PlainAccess := by decide
  have hlocals : rebased.names.localAllocator.next ≠ 65535 := by decide
  have hlabels : rebased.names.labelAllocator.next ≠ ⟨4294967295⟩ := by decide
  have hresult : rebased.result = .ok _ := rfl
  obtain ⟨f, g, hf, hg, hrenamed, hslots, hnumbers, -, -⟩ :=
    rebase_renames_injectively hplain hresult hlocals hlabels
  exact ⟨hplain, hlocals, hlabels, _, hresult, f, g, hf, hg, hrenamed, hslots, hnumbers⟩

end CilEdit
