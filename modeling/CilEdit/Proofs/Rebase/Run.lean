import CilEdit.Proofs.Rebase.Rename
import CilEdit.Rebase.Basic

/-! What a run of the renaming does, with any allocators. An instruction visits its local variable,
its labels and its jump targets in this order; a visit gives out a counterpart where there is none
yet and changes nothing otherwise. Counterparts are never taken back, so the code that comes out is
the donor renamed by the counterparts that are known at the end. -/

namespace CilEdit

variable {σ τ : Type}

namespace Renaming

/-- The counterpart of a local variable, or the variable itself if it has none. -/
def localMap (names : Renaming σ τ) (slot : Slot) : Slot := (names.local? slot).getD slot

/-- The counterpart of a label, or the label itself if it has none. -/
def labelMap (names : Renaming σ τ) (label : Label) : Label := (names.label? label).getD label

/-- Whether every counterpart is kept. -/
structure Extends (later names : Renaming σ τ) : Prop where
  local? : ∀ slot target, names.local? slot = some target → later.local? slot = some target
  label? : ∀ label target, names.label? label = some target → later.label? label = some target

theorem Extends.refl (names : Renaming σ τ) : names.Extends names := ⟨fun _ _ h => h, fun _ _ h => h⟩

theorem Extends.trans {last later names : Renaming σ τ} (hlast : last.Extends later)
    (hlater : later.Extends names) : last.Extends names :=
  ⟨fun slot target h => hlast.local? slot target (hlater.local? slot target h),
    fun label target h => hlast.label? label target (hlater.label? label target h)⟩

theorem Extends.localMap_eq {later names : Renaming σ τ} (h : later.Extends names) {slot : Slot}
    (hslot : (names.local? slot).isSome) : later.localMap slot = names.localMap slot := by
  obtain ⟨target, htarget⟩ := Option.isSome_iff_exists.mp hslot
  rw [localMap, localMap, htarget, h.local? slot target htarget]

theorem Extends.labelMap_eq {later names : Renaming σ τ} (h : later.Extends names) {label : Label}
    (hlabel : (names.label? label).isSome) : later.labelMap label = names.labelMap label := by
  obtain ⟨target, htarget⟩ := Option.isSome_iff_exists.mp hlabel
  rw [labelMap, labelMap, htarget, h.label? label target htarget]

theorem Extends.label?_isSome {later names : Renaming σ τ} (h : later.Extends names) {label : Label}
    (hlabel : (names.label? label).isSome) : (later.label? label).isSome := by
  obtain ⟨target, htarget⟩ := Option.isSome_iff_exists.mp hlabel
  rw [h.label? label target htarget]
  rfl

/-! ### Visits -/

section Locals

variable [LocalAllocator σ]

/-- What a visit to a local variable of the given type leaves. -/
def visitLocal (names : Renaming σ τ) (slot : Slot) (type : Option TypeSig) : Renaming σ τ :=
  match names.local? slot with
  | some _ => names
  | none =>
    let (target, allocator) := LocalAllocator.allocateLocal names.localAllocator type
    { names with
      locals := ⟨slot, target, type⟩ :: names.locals, localAllocator := allocator }

theorem local?_visitLocal (names : Renaming σ τ) (slot other : Slot) (type : Option TypeSig) :
    (names.visitLocal slot type).local? other =
      if other = slot ∧ names.local? slot = none then
        some (LocalAllocator.allocateLocal names.localAllocator type).1
      else names.local? other := by
  cases hslot : names.local? slot with
  | some target => simp [visitLocal, hslot]
  | none =>
      simp only [visitLocal, hslot, and_true]
      by_cases heq : other = slot
      · simp [local?, heq]
      · simp [local?, heq, Ne.symm heq]

theorem label?_visitLocal (names : Renaming σ τ) (slot : Slot) (type : Option TypeSig)
    (label : Label) : (names.visitLocal slot type).label? label = names.label? label := by
  unfold visitLocal
  split <;> rfl

theorem visitLocal_extends (names : Renaming σ τ) (slot : Slot) (type : Option TypeSig) :
    (names.visitLocal slot type).Extends names where
  local? other target h := by
    rw [local?_visitLocal, if_neg, h]
    rintro ⟨rfl, hnone⟩
    rw [h] at hnone
    cases hnone
  label? label target h := by rw [label?_visitLocal, h]

theorem local?_visitLocal_isSome (names : Renaming σ τ) (slot : Slot) (type : Option TypeSig) :
    ((names.visitLocal slot type).local? slot).isSome := by
  rw [local?_visitLocal]
  cases hslot : names.local? slot <;> simp

/-- What the visit to the local variable of an instruction leaves, given the types of the local
variables. -/
def visitAccess (typeOf : Slot → Option TypeSig) (names : Renaming σ τ)
    (instruction : Instruction) : Renaming σ τ :=
  match instruction.localSlot? with
  | none => names
  | some slot => names.visitLocal slot (typeOf slot)

theorem local?_visitAccess_isSome (typeOf : Slot → Option TypeSig) (names : Renaming σ τ)
    {instruction : Instruction} {slot : Slot} (h : instruction.localSlot? = some slot) :
    ((names.visitAccess typeOf instruction).local? slot).isSome := by
  rw [visitAccess, h]
  exact local?_visitLocal_isSome names slot _

end Locals

section Labels

variable [LabelAllocator τ]

/-- What a visit to a label leaves. -/
def visitLabel (names : Renaming σ τ) (label : Label) : Renaming σ τ :=
  match names.label? label with
  | some _ => names
  | none =>
    let (target, allocator) := LabelAllocator.allocateLabel names.labelAllocator
    { names with
      labels := (label, target) :: names.labels, labelAllocator := allocator }

/-- What visits to labels one after another leave. -/
def visitLabels (names : Renaming σ τ) (labels : List Label) : Renaming σ τ :=
  labels.foldl visitLabel names

theorem label?_visitLabel (names : Renaming σ τ) (label other : Label) :
    (names.visitLabel label).label? other =
      if other = label ∧ names.label? label = none then
        some (LabelAllocator.allocateLabel names.labelAllocator).1
      else names.label? other := by
  cases hlabel : names.label? label with
  | some target => simp [visitLabel, hlabel]
  | none =>
      simp only [visitLabel, hlabel, and_true]
      by_cases heq : other = label
      · simp [label?, heq]
      · simp [label?, List.lookup_cons, beq_false_of_ne heq, heq]

theorem local?_visitLabel (names : Renaming σ τ) (label : Label) (slot : Slot) :
    (names.visitLabel label).local? slot = names.local? slot := by
  unfold visitLabel
  split <;> rfl

theorem visitLabel_extends (names : Renaming σ τ) (label : Label) :
    (names.visitLabel label).Extends names where
  local? slot target h := by rw [local?_visitLabel, h]
  label? other target h := by
    rw [label?_visitLabel, if_neg, h]
    rintro ⟨rfl, hnone⟩
    rw [h] at hnone
    cases hnone

theorem visitLabels_extends (names : Renaming σ τ) (labels : List Label) :
    (names.visitLabels labels).Extends names := by
  induction labels generalizing names with
  | nil => exact .refl names
  | cons label labels ih => exact (ih _).trans (visitLabel_extends names label)

theorem label?_visitLabel_isSome (names : Renaming σ τ) (label : Label) :
    ((names.visitLabel label).label? label).isSome := by
  rw [label?_visitLabel]
  cases hlabel : names.label? label <;> simp

theorem label?_visitLabels_isSome (names : Renaming σ τ) {labels : List Label} {label : Label}
    (h : label ∈ labels) : ((names.visitLabels labels).label? label).isSome := by
  induction labels generalizing names with
  | nil => cases h
  | cons first labels ih =>
      rcases List.mem_cons.mp h with rfl | h
      · exact (visitLabels_extends _ labels).label?_isSome (label?_visitLabel_isSome names label)
      · exact ih _ h

end Labels

variable [LocalAllocator σ] [LabelAllocator τ]

/-- What the visits of an instruction leave, given the types of the local variables. -/
def visit (typeOf : Slot → Option TypeSig) (names : Renaming σ τ) (instruction : Instruction) :
    Renaming σ τ :=
  (names.visitAccess typeOf instruction).visitLabels (Scope.labelsOf instruction)

theorem visit_extends (typeOf : Slot → Option TypeSig) (names : Renaming σ τ)
    (instruction : Instruction) : (names.visit typeOf instruction).Extends names := by
  unfold visit visitAccess
  cases instruction.localSlot? with
  | none => exact visitLabels_extends names _
  | some slot => exact (visitLabels_extends _ _).trans (visitLocal_extends names slot _)

theorem foldl_visit_extends (typeOf : Slot → Option TypeSig) (names : Renaming σ τ) (code : Code) :
    (code.foldl (visit typeOf) names).Extends names := by
  induction code generalizing names with
  | nil => exact .refl names
  | cons instruction code ih => exact (ih _).trans (visit_extends typeOf names instruction)

/-- After its visits an instruction is renamed as it will be at the end. -/
theorem rename_visit (typeOf : Slot → Option TypeSig) (names : Renaming σ τ)
    (instruction : Instruction) {later : Renaming σ τ}
    (h : later.Extends (names.visit typeOf instruction)) :
    instruction.rename (names.visit typeOf instruction).localMap
        (names.visit typeOf instruction).labelMap =
      instruction.rename later.localMap later.labelMap := by
  refine Instruction.rename_congr (fun slot hslot => ?_) (fun label hlabel => ?_)
    (fun label hlabel => ?_)
  · have haccess := local?_visitAccess_isSome typeOf names hslot
    have hlabels := visitLabels_extends (names.visitAccess typeOf instruction)
      (Scope.labelsOf instruction)
    rw [visit, hlabels.localMap_eq haccess, (h.trans hlabels).localMap_eq haccess]
  · exact (h.labelMap_eq (label?_visitLabels_isSome _ (List.mem_append_left _ hlabel))).symm
  · exact (h.labelMap_eq (label?_visitLabels_isSome _ (List.mem_append_right _ hlabel))).symm

end Renaming

/-! ### Runs -/

namespace Rebase

open Renaming

/-- The type that a moved local variable gets, or none where there is no telling. -/
def slotType (donor : Code) (method : Method) (slot : Slot) : Option TypeSig :=
  match localType donor method slot with
  | .ok type => type
  | .error _ => none

theorem run_bind {α β : Type} {step : RenameM σ τ α} {next : α → RenameM σ τ β}
    {names later : Renaming σ τ} {value : α} (h : step names = .ok value later) :
    (step >>= next) names = next value later := by
  simp [bind, EStateM.bind, h]

theorem run_get (names : Renaming σ τ) : (get : RenameM σ τ _) names = .ok names names := rfl

/-- Whether the local variable of the instruction has no counterpart yet and cannot be typed. -/
def Blocked (donor : Code) (method : Method) (names : Renaming σ τ) (instruction : Instruction)
    (failure : Unsupported) : Prop :=
  ∃ slot, instruction.localSlot? = some slot ∧ names.local? slot = none ∧
    localType donor method slot = .error failure

section Locals

variable [LocalAllocator σ]

theorem renameLocal_blocked {donor : Code} {method : Method} {names : Renaming σ τ} {slot : Slot}
    {failure : Unsupported} (hslot : names.local? slot = none)
    (htype : localType donor method slot = .error failure) :
    renameLocal donor method slot names = .error failure names := by
  rw [renameLocal, run_bind (run_get names)]
  simp only [hslot, htype]
  rfl

theorem renameLocal_run {donor : Code} {method : Method} {names : Renaming σ τ} {slot : Slot}
    (h : names.local? slot = none → ∃ type, localType donor method slot = .ok type) :
    renameLocal donor method slot names =
      .ok ((names.visitLocal slot (slotType donor method slot)).localMap slot)
        (names.visitLocal slot (slotType donor method slot)) := by
  rw [localMap, local?_visitLocal, renameLocal, run_bind (run_get names)]
  cases hslot : names.local? slot with
  | some target =>
      simp only [visitLocal, hslot, reduceCtorEq, and_false, if_false, Option.getD_some]
      rfl
  | none =>
      obtain ⟨type, htype⟩ := h hslot
      simp only [visitLocal, slotType, hslot, htype, and_self, if_true, Option.getD_some]
      rfl

theorem renameAccess_run {donor : Code} {method : Method} {names : Renaming σ τ}
    {instruction : Instruction}
    (h : ∀ failure, ¬Blocked donor method names instruction failure) :
    renameAccess donor method instruction names =
      .ok (match instruction.localSlot? with
        | none => instruction
        | some slot => (instruction.withLocal
            ((names.visitAccess (slotType donor method) instruction).localMap slot)).getD
              instruction)
        (names.visitAccess (slotType donor method) instruction) := by
  cases hslot : instruction.localSlot? with
  | none =>
      rw [renameAccess, visitAccess, hslot]
      rfl
  | some slot =>
      have htype : names.local? slot = none → ∃ type, localType donor method slot = .ok type := by
        intro hnone
        cases htype : localType donor method slot with
        | error failure => exact absurd ⟨slot, hslot, hnone, htype⟩ (h failure)
        | ok type => exact ⟨type, rfl⟩
      rw [renameAccess, visitAccess, hslot]
      exact run_bind (renameLocal_run htype)

end Locals

section Labels

variable [LabelAllocator τ]

theorem renameLabel_run (names : Renaming σ τ) (label : Label) :
    renameLabel label names =
      .ok ((names.visitLabel label).labelMap label) (names.visitLabel label) := by
  rw [labelMap, label?_visitLabel, renameLabel, run_bind (run_get names)]
  cases hlabel : names.label? label with
  | some target =>
      simp only [visitLabel, hlabel, reduceCtorEq, and_false, if_false, Option.getD_some]
      rfl
  | none =>
      simp only [visitLabel, hlabel, and_self, if_true, Option.getD_some]
      rfl

theorem mapM_renameLabel_run (names : Renaming σ τ) (labels : List Label) :
    labels.mapM renameLabel names =
      .ok (labels.map (names.visitLabels labels).labelMap) (names.visitLabels labels) := by
  induction labels generalizing names with
  | nil => rfl
  | cons label labels ih =>
      have hkept := (visitLabels_extends (names.visitLabel label) labels).labelMap_eq
        (label?_visitLabel_isSome names label)
      rw [List.mapM_cons, run_bind (renameLabel_run names label), run_bind (ih _), List.map_cons,
        show names.visitLabels (label :: labels) = (names.visitLabel label).visitLabels labels from
          rfl, hkept]
      rfl

theorem renameTargets_run (names : Renaming σ τ) (operand : Operand) :
    renameTargets operand names =
      .ok (operand.jump? (names.visitLabels operand.targets).labelMap)
        (names.visitLabels operand.targets) := by
  cases operand with
  | target label =>
      rw [renameTargets, run_bind (renameLabel_run names label)]
      rfl
  | switch labels =>
      rw [renameTargets, run_bind (mapM_renameLabel_run names labels)]
      rfl
  | _ => rfl

end Labels

variable [LocalAllocator σ] [LabelAllocator τ]

theorem renameInstruction_blocked {donor : Code} {method : Method} {names : Renaming σ τ}
    {instruction : Instruction} {failure : Unsupported}
    (h : Blocked donor method names instruction failure) :
    renameInstruction donor method instruction names = .error failure names := by
  obtain ⟨slot, hslot, hnone, htype⟩ := h
  simp [renameInstruction, renameAccess, bind, EStateM.bind, hslot,
    renameLocal_blocked hnone htype]

/-- An instruction that is not blocked is renamed by the counterparts known after its visits. -/
theorem renameInstruction_run {donor : Code} {method : Method} {names : Renaming σ τ}
    {instruction : Instruction}
    (h : ∀ failure, ¬Blocked donor method names instruction failure) :
    renameInstruction donor method instruction names =
      .ok (instruction.rename (names.visit (slotType donor method) instruction).localMap
          (names.visit (slotType donor method) instruction).labelMap)
        (names.visit (slotType donor method) instruction) := by
  let accessed := names.visitAccess (slotType donor method) instruction
  let labelled := accessed.visitLabels instruction.labels
  have hvisit : names.visit (slotType donor method) instruction =
      labelled.visitLabels instruction.targets := List.foldl_append
  have hlabelled := visitLabels_extends labelled instruction.targets
  have haccessed := hlabelled.trans (visitLabels_extends accessed instruction.labels)
  have hlabels : instruction.labels.map labelled.labelMap =
      instruction.labels.map (labelled.visitLabels instruction.targets).labelMap :=
    List.map_congr_left fun label hlabel =>
      (hlabelled.labelMap_eq (label?_visitLabels_isSome accessed hlabel)).symm
  rw [renameInstruction, run_bind (renameAccess_run h), run_bind (mapM_renameLabel_run _ _),
    run_bind (renameTargets_run _ _), hvisit, Instruction.rename, ← hlabels]
  cases hslot : instruction.localSlot? with
  | none => rfl
  | some slot =>
      have hslot' := haccessed.localMap_eq (local?_visitAccess_isSome _ names hslot)
      simp only [hslot']
      rfl

/-- What a run over code that succeeds leaves, and the code that comes out. -/
theorem eq_of_mapM_renameInstruction {donor : Code} {method : Method} {code moved : Code}
    {names later : Renaming σ τ}
    (h : code.mapM (renameInstruction donor method) names = .ok moved later) :
    later = code.foldl (visit (slotType donor method)) names ∧
      moved = code.map fun instruction => instruction.rename later.localMap later.labelMap := by
  induction code generalizing names moved with
  | nil =>
      cases h
      exact ⟨rfl, rfl⟩
  | cons instruction code ih =>
      rw [List.mapM_cons] at h
      by_cases hblocked : ∃ failure, Blocked donor method names instruction failure
      · obtain ⟨failure, hfailure⟩ := hblocked
        simp [bind, EStateM.bind, renameInstruction_blocked hfailure] at h
      · rw [run_bind (renameInstruction_run (not_exists.mp hblocked))] at h
        cases hrest : code.mapM (renameInstruction donor method)
            (names.visit (slotType donor method) instruction) with
        | error failure names => simp [bind, EStateM.bind, hrest] at h
        | ok rest last =>
            rw [run_bind hrest] at h
            cases h
            obtain ⟨hlater, hmoved⟩ := ih hrest
            have hextends := foldl_visit_extends (slotType donor method)
              (names.visit (slotType donor method) instruction) code
            rw [← hlater] at hextends
            refine ⟨hlater, ?_⟩
            rw [List.map_cons, ← hmoved, ← rename_visit (slotType donor method) names instruction
              hextends]

end Rebase

open Rebase Renaming

/-- What a call that succeeds leaves, and the code that comes out. -/
theorem eq_of_rebase {σ τ : Type} [LocalAllocator σ] [LabelAllocator τ] {donor code : Code}
    {method : Method} {locals : σ} {labels : τ}
    (h : (rebase donor method locals labels).result = .ok code) :
    (rebase donor method locals labels).names =
        donor.foldl (visit (slotType donor method)) ⟨[], [], locals, labels⟩ ∧
      code = donor.map fun instruction =>
        instruction.rename (rebase donor method locals labels).names.localMap
          (rebase donor method locals labels).names.labelMap := by
  unfold rebase at h ⊢
  cases hrun : (donor.mapM (renameInstruction donor method)).run
      (⟨[], [], locals, labels⟩ : Renaming σ τ) with
  | error failure names =>
      rw [hrun] at h
      cases h
  | ok moved names =>
      rw [hrun] at h
      cases h
      exact eq_of_mapM_renameInstruction hrun

end CilEdit
