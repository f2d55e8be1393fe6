import CilEdit.Proofs.Rebase.Requests

/-! When rebasing fails. A local variable is typed when it first gets a counterpart, by the value that is
stored into it first, wherever in the code that store stands. So a call fails at the first instruction
whose local variable has a first store that cannot be typed, and it has asked the allocators for what
the instructions before that one need. The allocators and what they were asked for have no say in it. -/

namespace CilEdit

open Rebase Renaming

namespace Rebase

variable {donor code : Code} {method : Method}

/-- Whether the value that the donor stores first into the local variable cannot be typed. -/
def Untyped (donor : Code) (method : Method) (slot : Slot) (failure : Unsupported) : Prop :=
  ∃ store, (donor.findIdx? fun instruction => instruction.storesTo slot) = some store ∧
    donor.stackType method store 0 = .error failure

theorem localType_eq_error_iff {slot : Slot} {failure : Unsupported} :
    localType donor method slot = .error failure ↔ Untyped donor method slot failure := by
  rw [localType, Untyped]
  cases donor.findIdx? fun instruction => instruction.storesTo slot with
  | none => simp
  | some store =>
      cases htype : donor.stackType method store 0 <;> simp [htype, bind, Except.bind, pure, Except.pure]

/-- Whether `instruction`, between `earlier` and `rest`, is the first one in the code whose local
variable `slot` has a first store in the donor that cannot be typed. -/
structure FailsAt (donor : Code) (method : Method) (code earlier : Code) (instruction : Instruction)
    (rest : Code) (slot : Slot) (failure : Unsupported) : Prop where
  split : code = earlier ++ instruction :: rest
  access : instruction.localSlot? = some slot
  untyped : Untyped donor method slot failure
  typed : ∀ other ∈ earlier.slots, ∀ failure, ¬Untyped donor method other failure

/-- If some local variable of the code cannot be typed, then there is a first instruction with such a
local variable. -/
theorem exists_failsAt {slot : Slot} {failure : Unsupported} (hslot : slot ∈ code.slots)
    (huntyped : Untyped donor method slot failure) :
    ∃ earlier instruction rest slot failure,
      FailsAt donor method code earlier instruction rest slot failure := by
  induction code with
  | nil => cases hslot
  | cons instruction code ih =>
      by_cases hfirst : ∃ own, instruction.localSlot? = some own ∧
          ∃ failure, Untyped donor method own failure
      · obtain ⟨own, hown, failure, hfailure⟩ := hfirst
        exact ⟨[], instruction, code, own, failure, rfl, hown, hfailure, nofun⟩
      · have hrest := (Code.mem_slots_cons.mp hslot).resolve_left fun hown =>
          hfirst ⟨slot, hown, failure, huntyped⟩
        obtain ⟨earlier, later, rest, own, failure, hsplit, hown, hfailure, htyped⟩ := ih hrest
        refine ⟨instruction :: earlier, later, rest, own, failure, ?_, hown, hfailure, ?_⟩
        · rw [hsplit, List.cons_append]
        · intro other hother failure hfails
          rcases Code.mem_slots_cons.mp hother with hother | hother
          · exact hfirst ⟨other, hother, failure, hfails⟩
          · exact htyped other hother failure hfails

variable {σ τ : Type} [LocalAllocator σ] [LabelAllocator τ]

/-- A run over code of which every local variable can be typed succeeds. -/
theorem exists_mapM_renameInstruction (names : Renaming σ τ)
    (h : ∀ slot ∈ code.slots, ∀ failure, ¬Untyped donor method slot failure) :
    ∃ moved, code.mapM (renameInstruction donor method) names =
      .ok moved (code.foldl (visit (slotType donor method)) names) := by
  induction code generalizing names with
  | nil => exact ⟨[], rfl⟩
  | cons instruction code ih =>
      have hblocked : ∀ failure, ¬Blocked donor method names instruction failure := by
        rintro failure ⟨slot, hslot, -, htype⟩
        exact h slot (Code.mem_slots_cons.mpr (.inl hslot)) failure (localType_eq_error_iff.mp htype)
      have hrest : ∀ slot ∈ Code.slots code, ∀ failure, ¬Untyped donor method slot failure :=
        fun slot hslot => h slot (Code.mem_slots_cons.mpr (.inr hslot))
      obtain ⟨moved, hmoved⟩ := ih (names.visit (slotType donor method) instruction) hrest
      rw [List.mapM_cons, run_bind (renameInstruction_run hblocked), run_bind hmoved]
      exact ⟨_, rfl⟩

end Rebase

section Call

variable {donor earlier rest : Code} {method : Method} {instruction : Instruction} {slot : Slot}
  {failure : Unsupported} {σ τ : Type} [LocalAllocator σ] [LabelAllocator τ]

theorem exists_result_of_typed
    (h : ∀ slot ∈ donor.slots, ∀ failure, ¬Untyped donor method slot failure) (locals : σ)
    (labels : τ) : ∃ code, (rebase donor method locals labels).result = .ok code := by
  obtain ⟨moved, hmoved⟩ := exists_mapM_renameInstruction
    (⟨[], [], locals, labels⟩ : Renaming σ τ) h
  refine ⟨moved, ?_⟩
  rw [rebase, EStateM.run, hmoved]

/-- A call ends at the first instruction whose local variable cannot be typed, with what the visits of
the instructions before it left. -/
theorem rebase_of_failsAt (h : FailsAt donor method donor earlier instruction rest slot failure)
    (locals : σ) (labels : τ) :
    rebase donor method locals labels = ⟨.error failure,
      earlier.foldl (visit (slotType donor method)) ⟨[], [], locals, labels⟩⟩ := by
  obtain ⟨moved, hmoved⟩ := exists_mapM_renameInstruction
    (⟨[], [], locals, labels⟩ : Renaming σ τ) h.typed
  have hnew : slot ∉ earlier.slots := fun hslot => h.typed slot hslot failure h.untyped
  have hasked := (Asked.start (slotType donor method) locals labels).foldl_visit earlier
  have hblocked : Blocked donor method
      (earlier.foldl (visit (slotType donor method)) ⟨[], [], locals, labels⟩) instruction failure :=
    ⟨slot, h.access, (hasked.local?_eq_none_iff slot).mpr hnew,
      localType_eq_error_iff.mpr h.untyped⟩
  have hrun : (donor.mapM (renameInstruction donor method)) ⟨[], [], locals, labels⟩ =
      .error failure (earlier.foldl (visit (slotType donor method)) ⟨[], [], locals, labels⟩) := by
    nth_rewrite 2 [h.split]
    rw [List.mapM_append, run_bind hmoved, List.mapM_cons]
    simp only [bind, EStateM.bind, renameInstruction_blocked hblocked]
  rw [rebase, EStateM.run, hrun]

theorem result_eq_error_iff (locals : σ) (labels : τ) :
    (rebase donor method locals labels).result = .error failure ↔
      ∃ earlier instruction rest slot,
        FailsAt donor method donor earlier instruction rest slot failure := by
  constructor
  · intro hresult
    by_cases hsome : ∃ slot ∈ donor.slots, ∃ failure, Untyped donor method slot failure
    · obtain ⟨slot, hslot, own, huntyped⟩ := hsome
      obtain ⟨earlier, instruction, rest, first, failed, hfails⟩ := exists_failsAt hslot huntyped
      rw [rebase_of_failsAt hfails] at hresult
      cases hresult
      exact ⟨earlier, instruction, rest, first, hfails⟩
    · obtain ⟨code, hcode⟩ := exists_result_of_typed
        (fun slot hslot own huntyped => hsome ⟨slot, hslot, own, huntyped⟩) locals labels
      cases hcode.symm.trans hresult
  · rintro ⟨earlier, instruction, rest, slot, hfails⟩
    rw [rebase_of_failsAt hfails]

/-- A call that succeeds has typed every local variable of the donor. -/
theorem localType_of_result {code : Code} {locals : σ} {labels : τ}
    (h : (rebase donor method locals labels).result = .ok code) (hslot : slot ∈ donor.slots) :
    localType donor method slot = .ok (slotType donor method slot) := by
  cases htype : localType donor method slot with
  | ok type => rw [slotType, htype]
  | error failure =>
      obtain ⟨earlier, instruction, rest, first, failed, hfails⟩ :=
        exists_failsAt hslot (localType_eq_error_iff.mp htype)
      rw [rebase_of_failsAt hfails] at h
      cases h

end Call

/-- Rebasing fails just if some local variable that the donor accesses has a first store of which the
value cannot be typed. It fails with the failure for the one among them that is accessed first, and
with the same for all allocators. By then the allocators were asked, once each and in order of first
occurrence, for the local variables and the labels of the instructions before that access, and for
nothing else. -/
theorem rebase_fails_exactly {σ τ σ' τ' : Type} [LocalAllocator σ] [LabelAllocator τ]
    [LocalAllocator σ'] [LabelAllocator τ'] (donor : Code) (method : Method) (locals : σ)
    (labels : τ) (otherLocals : σ') (otherLabels : τ') :
    let rebased := rebase donor method locals labels
    ((∃ failure, rebased.result = .error failure) ↔
      ∃ slot ∈ donor.slots, ∃ failure, Untyped donor method slot failure) ∧
    (∀ failure, rebased.result = .error failure ↔
      (rebase donor method otherLocals otherLabels).result = .error failure) ∧
    ∀ failure, rebased.result = .error failure → ∃ earlier instruction rest slot,
      FailsAt donor method donor earlier instruction rest slot failure ∧
      (earlier.slots.eraseDups.mapM (requestLocal (slotType donor method))).run locals =
        (rebased.names.locals.reverse, rebased.names.localAllocator) ∧
      (earlier.labelsInUse.eraseDups.mapM requestLabel).run labels =
        (rebased.names.labels.reverse, rebased.names.labelAllocator) ∧
      slot ∉ rebased.names.locals.map Relocation.source := by
  intro rebased
  refine ⟨⟨?_, ?_⟩, fun failure => ?_, fun failure hresult => ?_⟩
  · rintro ⟨failure, hresult⟩
    obtain ⟨earlier, instruction, rest, slot, hfails⟩ :=
      (result_eq_error_iff locals labels).mp hresult
    have hmem : instruction ∈ donor := by
      rw [hfails.split]
      exact List.mem_append_right _ List.mem_cons_self
    exact ⟨slot, List.mem_filterMap.mpr ⟨instruction, hmem, hfails.access⟩, failure, hfails.untyped⟩
  · rintro ⟨slot, hslot, failure, huntyped⟩
    obtain ⟨earlier, instruction, rest, first, failed, hfails⟩ := exists_failsAt hslot huntyped
    exact ⟨failed, (result_eq_error_iff locals labels).mpr ⟨_, _, _, _, hfails⟩⟩
  · exact (result_eq_error_iff locals labels).trans
      (result_eq_error_iff otherLocals otherLabels).symm
  · obtain ⟨earlier, instruction, rest, slot, hfails⟩ :=
      (result_eq_error_iff locals labels).mp hresult
    have hasked := (Asked.start (slotType donor method) locals labels).foldl_visit earlier
    have hnames : rebased.names =
        earlier.foldl (visit (slotType donor method)) ⟨[], [], locals, labels⟩ := by
      rw [show rebased = _ from rebase_of_failsAt hfails locals labels]
    rw [← hnames] at hasked
    refine ⟨earlier, instruction, rest, slot, hfails, hasked.locals, hasked.labels, ?_⟩
    rw [← local?_eq_none_iff, hasked.local?_eq_none_iff]
    exact fun hslot => hfails.typed slot hslot failure hfails.untyped

/-- Two local variables get their first values from calls without signatures. The one that is accessed
first is stored into last; the local variable and the label before that access have counterparts. -/
theorem rebase_fails_at_bare_call :
    let donor : Code := [⟨.ldloc0, .none, [⟨5⟩], []⟩, .make .call, ⟨.ldloc1, .none, [⟨6⟩], []⟩,
      .make .stloc2, .make .calli, .make .stloc1]
    let method : Method := ⟨.object, "Next", ⟨.plain, [], .void⟩, [.int32]⟩
    let rebased := rebase donor method (SlotPool.startingAt 2) (LabelPool.mk ⟨3⟩)
    rebased.result = .error ⟨.calli, .none⟩ ∧
      (rebase donor method (SlotPool.startingAt 9) (LabelPool.mk ⟨0⟩)).result =
        .error ⟨.calli, .none⟩ ∧
      (∃ earlier instruction rest slot,
        FailsAt donor method donor earlier instruction rest slot ⟨.calli, .none⟩) ∧
      rebased.names.localAllocator.allocated = [(2, some .int32)] ∧
      rebased.names.labelAllocator.next = ⟨4⟩ := by
  intro donor method rebased
  have hresult : rebased.result = .error ⟨.calli, .none⟩ := rfl
  obtain ⟨-, hother, hfails⟩ := rebase_fails_exactly donor method (SlotPool.startingAt 2)
    (LabelPool.mk ⟨3⟩) (SlotPool.startingAt 9) (LabelPool.mk ⟨0⟩)
  obtain ⟨earlier, instruction, rest, slot, hfailsAt, -⟩ := hfails _ hresult
  exact ⟨hresult, (hother _).mp hresult, ⟨earlier, instruction, rest, slot, hfailsAt⟩, rfl, rfl⟩

end CilEdit
