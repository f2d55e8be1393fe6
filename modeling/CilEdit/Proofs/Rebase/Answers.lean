import CilEdit.Proofs.Instruction.Recoding
import CilEdit.Proofs.Rebase.Injective
import CilEdit.Proofs.Stack.Map
import CilEdit.Proofs.Typing.Transport

/-! What rebased code does to the stack, and the types that are found in it. A renamed instruction takes
and leaves as many values as before, however its slot is written now, so every producer stands where it
stood. The slots are mapped injectively, so the nearest store into a variable is the image of the
nearest store before. Where the variables have the types of their counterparts, every instruction
therefore pushes a value of the type that it pushed in the donor. -/

namespace CilEdit

/-- The failure with the jump targets mapped that the operand holds. -/
def Unsupported.rename (g : Label → Label) (failure : Unsupported) : Unsupported :=
  { failure with operand := failure.operand.mapTargets g }

/-! ### Accesses by their kind -/

namespace AccessKind

/-- Where the type of the value comes from that an access to a local variable pushes. -/
def source : AccessKind → Slot → TypeSource
  | .load, slot => .slot slot
  | .loadAddress, slot => .slotAddress slot
  | .store, _ => .known none

theorem mapSlot_source (f : Slot → Slot) (kind : AccessKind) (slot : Slot) :
    (kind.source slot).mapSlot f = kind.source (f slot) := by
  cases kind <;> rfl

end AccessKind

namespace Instruction

theorem typeSource_of_localKind? {instruction : Instruction} {kind : AccessKind} {slot : Slot}
    (hkind : instruction.localKind? = some kind) (hslot : instruction.localSlot? = some slot)
    (method : Method) : instruction.typeSource method = kind.source slot := by
  have hsource : ∀ source, instruction.localSource source = source slot := by
    intro source
    rw [localSource, hslot]
  obtain ⟨opcode, operand, labels, markers⟩ := instruction
  cases opcode <;> cases hkind <;> first | exact hsource _ | rfl

/-- Neither labels nor jump targets count. -/
theorem typeSource_mapTargets (instruction : Instruction) (labels : List Label)
    (g : Label → Label) (method : Method) :
    typeSource { instruction with labels, operand := instruction.operand.mapTargets g } method =
      instruction.typeSource method := by
  obtain ⟨opcode, operand, _, _⟩ := instruction
  cases operand <;> rfl

/-! ### Renamed instructions -/

section Rename

variable {f : Slot → Slot} {g : Label → Label} {instruction : Instruction}

theorem signature?_mapTargets (g : Label → Label) (shape : CallShape) (operand : Operand) :
    shape.signature? (operand.mapTargets g) = shape.signature? operand := by
  cases shape <;> cases operand <;> rfl

theorem stackEffect_rename (f : Slot → Slot) (g : Label → Label) (instruction : Instruction) :
    (instruction.rename f g).stackEffect =
      instruction.stackEffect.mapError (Unsupported.rename g) := by
  cases hslot : instruction.localSlot? with
  | none =>
      rw [rename_of_none hslot, stackEffect, stackEffect]
      cases instruction.opcode.effect with
      | fixed pops pushes => rfl
      | ret => rfl
      | call shape =>
          simp only [signature?_mapTargets]
          cases shape.signature? instruction.operand <;> rfl
  | some slot =>
      obtain ⟨kind, hkind⟩ := exists_localKind? hslot
      have heffect := effect_of_localKind? (localKind?_accessLocal kind (f slot))
      rw [rename_of_some hkind hslot, stackEffect, stackEffect, effect_of_localKind? hkind, heffect]
      cases kind <;> rfl

theorem localKind?_rename (f : Slot → Slot) (g : Label → Label) (instruction : Instruction) :
    (instruction.rename f g).localKind? = instruction.localKind? := by
  cases hslot : instruction.localSlot? with
  | none => rw [rename_of_none hslot, localKind?, localKind?]
  | some slot =>
      obtain ⟨kind, hkind⟩ := exists_localKind? hslot
      rw [rename_of_some hkind hslot, hkind, ← localKind?_accessLocal kind (f slot), localKind?,
        localKind?]

theorem localSlot?_rename (h : instruction.PlainAccess) (f : Slot → Slot) (g : Label → Label) :
    (instruction.rename f g).localSlot? = instruction.localSlot?.map f := by
  cases hslot : instruction.localSlot? with
  | none =>
      rw [rename_of_none hslot, localSlot?, Operand.localSlot?_mapTargets]
      exact hslot
  | some slot =>
      obtain ⟨kind, -, -, htarget, -⟩ := (renamed_rename h f g).access slot hslot
      exact htarget

/-- Renaming tells apart the variables that it told apart before. -/
theorem storesTo_rename (h : instruction.PlainAccess) {slot : Slot}
    (hf : ∀ own, instruction.localSlot? = some own → f own = f slot → own = slot) :
    (instruction.rename f g).storesTo (f slot) = instruction.storesTo slot := by
  rw [storesTo, storesTo, isStoreLocal, isStoreLocal, localKind?_rename, localSlot?_rename h]
  cases hslot : instruction.localSlot? with
  | none => rfl
  | some own =>
      congr 1
      have hiff : f own = f slot ↔ own = slot := ⟨hf own hslot, congrArg f⟩
      simp [hiff]

theorem typeSource_rename (h : instruction.PlainAccess) (f : Slot → Slot) (g : Label → Label)
    (method : Method) :
    (instruction.rename f g).typeSource method = (instruction.typeSource method).mapSlot f := by
  cases hslot : instruction.localSlot? with
  | none =>
      have hreads : ∀ slot, ¬(instruction.typeSource method).ReadsSlot slot := by
        intro slot hreads
        cases hslot.symm.trans (localSlot?_of_readsSlot hreads)
      rw [rename_of_none hslot, typeSource_mapTargets, TypeSource.mapSlot_of_not_readsSlot hreads]
  | some slot =>
      obtain ⟨kind, hkind⟩ := exists_localKind? hslot
      have htarget := localSlot?_rename h f g
      rw [hslot] at htarget
      rw [typeSource_of_localKind? hkind hslot, AccessKind.mapSlot_source,
        typeSource_of_localKind? ((localKind?_rename f g instruction).trans hkind) htarget]

end Rename

end Instruction

/-! ### Renamed code -/

theorem Method.argumentType?_eq {method other : Method} (hsignature : other.signature = method.signature)
    (howner : other.owner = method.owner) : other.argumentType? = method.argumentType? := by
  funext slot
  rw [argumentType?, argumentType?, arguments, arguments, receiverType, receiverType, hsignature,
    howner]

section Rename

variable {donor : Code} {method other : Method} {f : Slot → Slot}

/-- A renaming that tells the local variables of the donor apart carries the search for types along,
into a method with the same arguments where the variables have the types of their counterparts. -/
theorem transport_rename (hplain : ∀ instruction ∈ donor, instruction.PlainAccess)
    (hf : Set.InjOn f {slot | slot ∈ donor.slots})
    (harguments : other.argumentType? = method.argumentType?)
    (hlocals : ∀ slot ∈ donor.slots, other.localType? (f slot) = method.localType? slot)
    (g : Label → Label) :
    Transport method other (Site.map (Instruction.rename f g)) f (Unsupported.rename g)
      (fun site => site.path ⊆ donor) := by
  have hslots : ∀ site : Site, site.path ⊆ donor → ∀ slot,
      (site.instruction.typeSource method).ReadsSlot slot → slot ∈ donor.slots := by
    intro site hsite slot hreads
    exact List.mem_filterMap.mpr ⟨site.instruction, hsite List.mem_cons_self,
      Instruction.localSlot?_of_readsSlot hreads⟩
  refine ⟨?_, ?_, ?_, ?_, ?_⟩
  · intro site earlier hsite hpasses access hmem
    exact hsite (List.mem_cons_of_mem _ (hpasses.subset hmem))
  · intro site hsite
    rw [Site.map, Instruction.typeSource_congr harguments]
    exact Instruction.typeSource_rename (hplain _ (hsite List.mem_cons_self)) f g method
  · intro site above _
    exact Trail.producer?_map (Instruction.stackEffect_rename f g) site.earlier above
  · intro site slot hsite hreads
    apply Trail.lastStore?_map
    intro store hstore
    have hmem : store ∈ donor := hsite (List.mem_cons_of_mem _ hstore)
    refine Instruction.storesTo_rename (hplain store hmem) fun own hown heq => ?_
    exact hf (List.mem_filterMap.mpr ⟨store, hmem, hown⟩) (hslots site hsite slot hreads) heq
  · intro site slot hsite hreads
    exact hlocals slot (hslots site hsite slot hreads)

end Rename

/-! ### Rebased code -/

open Renaming

/-- Rebasing that succeeds keeps what the instructions do to the stack and who produced each value, and
the types of pushed values for every method with the same arguments where the local variables have the
types of their counterparts. The questions that fail for the donor fail for the rebased code, too. -/
theorem rebase_keeps_answers {donor code : Code} {method : Method} {locals : SlotPool}
    {labels : LabelPool} (hplain : ∀ instruction ∈ donor, instruction.PlainAccess)
    (hresult : (rebase donor method locals labels).result = .ok code)
    (hlocals : (rebase donor method locals labels).names.localAllocator.next ≠ 65535) :
    let f := (rebase donor method locals labels).names.localMap
    let g := (rebase donor method locals labels).names.labelMap
    List.Forall₂ (Instruction.Renamed f g) donor code ∧
    (∀ index : Nat, code[index]?.map Instruction.stackEffect =
      donor[index]?.map fun instruction =>
        instruction.stackEffect.mapError (Unsupported.rename g)) ∧
    (∀ index above, code.producer? index above =
      (donor.producer? index above).mapError (Unsupported.rename g)) ∧
    ∀ other : Method, other.signature = method.signature → other.owner = method.owner →
      (∀ slot ∈ donor.slots, other.localType? (f slot) = method.localType? slot) →
      ∀ index, code.pushedType other index =
        (donor.pushedType method index).mapError (Unsupported.rename g) := by
  intro f g
  have hcode : code = donor.map (Instruction.rename f g) := (eq_of_rebase hresult).2
  subst hcode
  refine ⟨Code.forall₂_rename hplain f g, ?_, ?_, ?_⟩
  · intro index
    rw [List.getElem?_map, Option.map_map]
    congr 1
    funext instruction
    exact Instruction.stackEffect_rename f g instruction
  · exact Code.producer?_map (Instruction.stackEffect_rename f g) donor
  · intro other hsignature howner hdeclared index
    obtain ⟨injective, hinjective, heq, -⟩ := exists_localMap hresult hlocals
    have hf : Set.InjOn f {slot | slot ∈ donor.slots} := by
      intro left hleft right hright hlr
      exact hinjective ((heq left hleft).symm.trans (hlr.trans (heq right hright)))
    have harguments := Method.argumentType?_eq hsignature howner
    exact (transport_rename hplain hf harguments hdeclared g).pushedType_code
      (Code.site?_map donor index) fun site hsite => Code.path_subset_of_site? hsite

/-- A variable that is stored into twice and one that is only declared, moved behind two others. -/
theorem rebase_keeps_answers_stored_twice :
    let donor : Code := [⟨.stloc0, .none, [⟨7⟩], []⟩, .loadLong 5, .make .stloc0, .make .ldloc1,
      .make .ldloc0, ⟨.br, .target ⟨7⟩, [], []⟩]
    let method : Method := ⟨.object, "Next", ⟨.plain, [], .void⟩, [.object, .string]⟩
    let other : Method :=
      ⟨.object, "Reset", ⟨.plain, [], .void⟩, [.int32, .int32, .object, .string]⟩
    let rebased := rebase donor method (SlotPool.startingAt 2) (LabelPool.mk ⟨0⟩)
    (∀ instruction ∈ donor, instruction.PlainAccess) ∧ rebased.names.localAllocator.next ≠ 65535 ∧
      (∀ slot ∈ donor.slots,
        other.localType? (rebased.names.localMap slot) = method.localType? slot) ∧
      ∃ code, rebased.result = .ok code ∧ code.producer? 2 0 = .ok (some 1) ∧
        code.pushedType other 4 = (donor.pushedType method 4).mapError
          (Unsupported.rename rebased.names.labelMap) := by
  intro donor method other rebased
  have hplain : ∀ instruction ∈ donor, instruction.PlainAccess := by decide
  have hlocals : rebased.names.localAllocator.next ≠ 65535 := by decide
  have hresult : rebased.result = .ok _ := rfl
  have hdeclared : ∀ slot ∈ donor.slots,
      other.localType? (rebased.names.localMap slot) = method.localType? slot := by
    have hall : donor.slots.all fun slot =>
        other.localType? (rebased.names.localMap slot) == method.localType? slot := by decide
    simpa only [List.all_eq_true, beq_iff_eq] using hall
  obtain ⟨-, -, hproducer, htype⟩ := rebase_keeps_answers hplain hresult hlocals
  exact ⟨hplain, hlocals, hdeclared, _, hresult, hproducer 2 0, htype other rfl rfl hdeclared 4⟩

end CilEdit
