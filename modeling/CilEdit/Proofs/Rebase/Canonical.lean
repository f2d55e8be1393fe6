import CilEdit.Proofs.Rebase.Answers
import CilEdit.Proofs.Rebase.Donors

/-! Rebased code as a normal form. The counterparts are numbers of first occurrence and accesses are
written in the shortest form, so the code that comes out does not tell which slots and labels the donor
had, nor how its accesses were written. Two donors that differ in nothing else come out the same. As
rebased code differs from its donor in nothing else, to rebase it is to rebase the donor. -/

namespace CilEdit

open Rebase Renaming

/-! ### Instructions that differ in identifiers and encoding only -/

namespace Instruction

/-- Whether an instruction is another with its labels mapped by `g`, and with its local variable mapped
by `f` if it accesses one. The access may be written in another form. -/
structure Variant (f : Slot → Slot) (g : Label → Label) (before after : Instruction) : Prop where
  plain_before : before.PlainAccess
  plain_after : after.PlainAccess
  labels : after.labels = before.labels.map g
  markers : after.markers = before.markers
  other : before.localSlot? = none →
    after.opcode = before.opcode ∧ after.operand = before.operand.mapTargets g
  access : ∀ slot, before.localSlot? = some slot →
    after.localKind? = before.localKind? ∧ after.localSlot? = some (f slot)

variable {f F F' : Slot → Slot} {g G G' : Label → Label} {before after : Instruction}

theorem variant_rename {instruction : Instruction} (h : instruction.PlainAccess) (f : Slot → Slot)
    (g : Label → Label) : instruction.Variant f g (instruction.rename f g) where
  plain_before := h
  plain_after := h.rename f g
  labels := labels_rename f g instruction
  markers := markers_rename f g instruction
  other := (renamed_rename h f g).other
  access slot hslot := by
    rw [localKind?_rename, localSlot?_rename h, hslot]
    exact ⟨rfl, rfl⟩

namespace Variant

theorem localSlot?_eq (h : before.Variant f g after) : after.localSlot? = before.localSlot?.map f := by
  cases hslot : before.localSlot? with
  | some slot => exact (h.access slot hslot).2
  | none =>
      obtain ⟨hopcode, hoperand⟩ := h.other hslot
      rw [localSlot?, hopcode, hoperand, Operand.localSlot?_mapTargets]
      exact hslot

theorem targets_eq (h : before.Variant f g after) : after.targets = before.targets.map g := by
  cases hslot : before.localSlot? with
  | none => rw [targets, targets, (h.other hslot).2, Operand.targets_mapTargets]
  | some slot =>
      have hbefore := h.plain_before.isJump_eq_false hslot
      have hafter := h.plain_after.isJump_eq_false (h.access slot hslot).2
      rw [targets, targets, Operand.targets_of_isJump_eq_false hbefore,
        Operand.targets_of_isJump_eq_false hafter, List.map_nil]

theorem labelsOf_eq (h : before.Variant f g after) :
    Scope.labelsOf after = (Scope.labelsOf before).map g := by
  rw [Scope.labelsOf, Scope.labelsOf, h.labels, h.targets_eq, List.map_append]

/-- Renaming ends in the same instruction if the identifiers end in the same ones. -/
theorem rename_eq (h : before.Variant f g after)
    (hF : ∀ slot, before.localSlot? = some slot → F' (f slot) = F slot)
    (hG : ∀ label ∈ Scope.labelsOf before, G' (g label) = G label) :
    after.rename F' G' = before.rename F G := by
  have hlabels : after.labels.map G' = before.labels.map G := by
    rw [h.labels, List.map_map]
    exact List.map_congr_left fun label hlabel => hG label (List.mem_append_left _ hlabel)
  cases hslot : before.localSlot? with
  | none =>
      have hnone : after.localSlot? = none := by rw [h.localSlot?_eq, hslot, Option.map_none]
      obtain ⟨hopcode, hoperand⟩ := h.other hslot
      have htargets : after.operand.mapTargets G' = before.operand.mapTargets G := by
        rw [hoperand, Operand.mapTargets_mapTargets]
        exact Operand.mapTargets_congr fun label hlabel =>
          hG label (List.mem_append_right _ hlabel)
      rw [rename_of_none hslot, rename_of_none hnone, hlabels, htargets, hopcode, h.markers]
  | some slot =>
      obtain ⟨kind, hkind⟩ := exists_localKind? hslot
      obtain ⟨hsame, htarget⟩ := h.access slot hslot
      rw [rename_of_some hkind hslot, rename_of_some (hsame.trans hkind) htarget, hlabels,
        h.markers, hF slot hslot,
        Operand.jump?_eq_none (h.plain_before.isJump_eq_false hslot),
        Operand.jump?_eq_none (h.plain_after.isJump_eq_false htarget)]

end Variant

end Instruction

/-! ### Donors that differ in identifiers and encoding only -/

namespace Code

variable {f F F' : Slot → Slot} {g G G' : Label → Label} {before after : Code}

theorem slots_of_variant (h : List.Forall₂ (Instruction.Variant f g) before after) :
    after.slots = before.slots.map f := by
  induction h with
  | nil => rfl
  | @cons first second rest more hfirst _ ih =>
      unfold slots at ih ⊢
      rw [List.filterMap_cons, List.filterMap_cons, hfirst.localSlot?_eq, ih]
      cases first.localSlot? <;> rfl

theorem labelsInUse_of_variant (h : List.Forall₂ (Instruction.Variant f g) before after) :
    after.labelsInUse = before.labelsInUse.map g := by
  induction h with
  | nil => rfl
  | cons hfirst _ ih =>
      unfold labelsInUse at ih ⊢
      rw [List.flatMap_cons, List.flatMap_cons, hfirst.labelsOf_eq, ih, List.map_append]

theorem map_rename_of_variant (h : List.Forall₂ (Instruction.Variant f g) before after)
    (hF : ∀ slot ∈ before.slots, F' (f slot) = F slot)
    (hG : ∀ label ∈ before.labelsInUse, G' (g label) = G label) :
    (after.map fun instruction => instruction.rename F' G') =
      before.map fun instruction => instruction.rename F G := by
  have hmem := (List.forall₂_and_left (p := (· ∈ before)) before after).mpr ⟨fun _ hmem => hmem, h⟩
  symm
  rw [← List.forall₂_eq_eq_eq, List.forall₂_map_left_iff, List.forall₂_map_right_iff]
  refine hmem.imp fun first second hboth => ?_
  obtain ⟨hfirst, hvariant⟩ := hboth
  symm
  refine hvariant.rename_eq (fun slot hslot => ?_) fun label hlabel => ?_
  · exact hF slot (List.mem_filterMap.mpr ⟨first, hfirst, hslot⟩)
  · exact hG label (List.mem_flatMap.mpr ⟨first, hfirst, hlabel⟩)

theorem forall₂_variant_rename {code : Code} (h : ∀ instruction ∈ code, instruction.PlainAccess)
    (f : Slot → Slot) (g : Label → Label) :
    List.Forall₂ (Instruction.Variant f g) code
      (code.map fun instruction => instruction.rename f g) := by
  rw [List.forall₂_map_right_iff, List.forall₂_same]
  exact fun instruction hmem => Instruction.variant_rename (h instruction hmem) f g

end Code

section Call

variable {scope : Scope} {before after code variant : Code} {method other : Method}
  {f : Slot → Slot} {g : Label → Label}

theorem localMap_of_slots (hslots : after.slots = before.slots.map f)
    (hf : Set.InjOn f {slot | slot ∈ before.slots})
    (hcode : (scope.rebase before method).result = .ok code)
    (hvariant : (scope.rebase after other).result = .ok variant) {slot : Slot}
    (hslot : slot ∈ before.slots) :
    (scope.rebase after other).names.localMap (f slot) =
      (scope.rebase before method).names.localMap slot := by
  have hnumbers := (asked_rebase hcode).numbersLocals
  have hmapped := (asked_rebase hvariant).numbersLocals
  rw [NumbersLocals, hslots] at hmapped
  have htarget : (scope.rebase after other).names.local? (f slot) =
      (scope.rebase before method).names.local? slot :=
    Option.map_injective (fun _ _ => UInt16.toNat_inj.mp)
      (Numbered.number?_map hnumbers hmapped hf hslot)
  obtain ⟨target, hlocal⟩ := exists_local?_of_rebase hcode hslot
  rw [localMap, localMap, htarget, Scope.rebase, hlocal]
  rfl

theorem labelMap_of_labels (hlabels : after.labelsInUse = before.labelsInUse.map g)
    (hg : Set.InjOn g {label | label ∈ before.labelsInUse})
    (hcode : (scope.rebase before method).result = .ok code)
    (hvariant : (scope.rebase after other).result = .ok variant) {label : Label}
    (hlabel : label ∈ before.labelsInUse) :
    (scope.rebase after other).names.labelMap (g label) =
      (scope.rebase before method).names.labelMap label := by
  have hnumbers := (asked_rebase hcode).numbersLabels
  have hmapped := (asked_rebase hvariant).numbersLabels
  rw [NumbersLabels, hlabels] at hmapped
  have htarget : (scope.rebase after other).names.label? (g label) =
      (scope.rebase before method).names.label? label :=
    Option.map_injective Label.counts.injective
      (Numbered.number?_map hnumbers hmapped hg hlabel)
  obtain ⟨target, hlocal⟩ := exists_label?_of_rebase hcode hlabel
  rw [labelMap, labelMap, htarget, Scope.rebase, hlocal]
  rfl

/-- Donors that differ in identifiers and encoding only come out the same. -/
theorem eq_of_variant (h : List.Forall₂ (Instruction.Variant f g) before after)
    (hf : Set.InjOn f {slot | slot ∈ before.slots})
    (hg : Set.InjOn g {label | label ∈ before.labelsInUse})
    (hcode : (scope.rebase before method).result = .ok code)
    (hvariant : (scope.rebase after other).result = .ok variant) : variant = code := by
  rw [(eq_of_rebase hcode).2, (eq_of_rebase hvariant).2]
  refine Code.map_rename_of_variant h (fun slot hslot => ?_) fun label hlabel => ?_
  · exact localMap_of_slots (Code.slots_of_variant h) hf hcode hvariant hslot
  · exact labelMap_of_labels (Code.labelsInUse_of_variant h) hg hcode hvariant hlabel

/-- To rebase code that was rebased is to rebase the code as it was. -/
theorem eq_of_rebase_rebase {donor moved again direct : Code} {first second : Scope}
    {firstMethod secondMethod directMethod : Method}
    (hplain : ∀ instruction ∈ donor, instruction.PlainAccess)
    (hmoved : (first.rebase donor firstMethod).result = .ok moved)
    (hlocals : (first.rebase donor firstMethod).scope.locals.next ≠ 65535)
    (hlabels : (first.rebase donor firstMethod).scope.labels.next ≠ ⟨4294967295⟩)
    (hagain : (second.rebase moved secondMethod).result = .ok again)
    (hdirect : (second.rebase donor directMethod).result = .ok direct) : again = direct := by
  obtain ⟨f, g, hf, hg, rfl⟩ := exists_injective_of_rebase hmoved hlocals hlabels
  exact eq_of_variant (Code.forall₂_variant_rename hplain f g) hf.injOn hg.injOn hdirect hagain

end Call

/-- Rebased code is a normal form. Rebasing into one scope and then into another comes to rebasing into
the other one at once, so rebasing into the scope that starts with the first identifiers changes its own
results no more. And two donors that differ only by injective renamings of their slots and labels and by
the forms of their accesses come out the same. -/
theorem Scope.rebase_canonical {donor : Code}
    (hplain : ∀ instruction ∈ donor, instruction.PlainAccess) :
    (∀ (first second : Scope) (firstMethod secondMethod directMethod : Method)
      (moved again direct : Code),
      (first.rebase donor firstMethod).result = .ok moved →
      (first.rebase donor firstMethod).scope.locals.next ≠ 65535 →
      (first.rebase donor firstMethod).scope.labels.next ≠ ⟨4294967295⟩ →
      (second.rebase moved secondMethod).result = .ok again →
      (second.rebase donor directMethod).result = .ok direct → again = direct) ∧
    (∀ (firstMethod secondMethod : Method) (code again : Code),
      ((startingAt 0 ⟨0⟩).rebase donor firstMethod).result = .ok code →
      ((startingAt 0 ⟨0⟩).rebase donor firstMethod).scope.locals.next ≠ 65535 →
      ((startingAt 0 ⟨0⟩).rebase donor firstMethod).scope.labels.next ≠ ⟨4294967295⟩ →
      ((startingAt 0 ⟨0⟩).rebase code secondMethod).result = .ok again → again = code) ∧
    ∀ (variant : Code) (f : Slot → Slot) (g : Label → Label),
      List.Forall₂ (Instruction.Variant f g) donor variant →
      Set.InjOn f {slot | slot ∈ donor.slots} → Set.InjOn g {label | label ∈ donor.labelsInUse} →
      ∀ (scope : Scope) (method other : Method) (code moved : Code),
        (scope.rebase donor method).result = .ok code →
        (scope.rebase variant other).result = .ok moved → moved = code := by
  refine ⟨?_, ?_, ?_⟩
  · intro first second firstMethod secondMethod directMethod moved again direct hmoved hlocals hlabels
      hagain hdirect
    exact eq_of_rebase_rebase hplain hmoved hlocals hlabels hagain hdirect
  · intro firstMethod secondMethod code again hcode hlocals hlabels hagain
    exact eq_of_rebase_rebase hplain hcode hlocals hlabels hagain hcode
  · intro variant f g hvariant hf hg scope method other code moved hcode hmoved
    exact eq_of_variant hvariant hf hg hcode hmoved

/-- A loop, first moved to slots that need other forms, and the same loop with its labels exchanged,
another slot in the place of the first one and its accesses in other forms. -/
theorem Scope.rebase_canonical_loop :
    let donor : Code := [⟨.stloc, .localSlot 9, [⟨7⟩], []⟩, ⟨.brfalse, .target ⟨2⟩, [], []⟩,
      ⟨.ldlocS, .localSlot 300, [], []⟩, ⟨.br, .target ⟨7⟩, [⟨2⟩], []⟩]
    let variant : Code := [⟨.stloc2, .none, [⟨2⟩], []⟩, ⟨.brfalse, .target ⟨7⟩, [], []⟩,
      ⟨.ldloc, .localSlot 300, [], []⟩, ⟨.br, .target ⟨2⟩, [⟨7⟩], []⟩]
    let moved : Code := [⟨.stlocS, .localSlot 255, [⟨10⟩], []⟩, ⟨.brfalse, .target ⟨11⟩, [], []⟩,
      ⟨.ldloc, .localSlot 256, [], []⟩, ⟨.br, .target ⟨10⟩, [⟨11⟩], []⟩]
    let method : Method := ⟨.object, "Next", ⟨.plain, [], .void⟩, [.int32]⟩
    let first := startingAt 255 ⟨10⟩
    let second := startingAt 0 ⟨0⟩
    (∀ instruction ∈ donor, instruction.PlainAccess) ∧
      (first.rebase donor method).result = .ok moved ∧
      ∃ again direct other, (second.rebase moved method).result = .ok again ∧
        (second.rebase donor method).result = .ok direct ∧
        (second.rebase variant method).result = .ok other ∧ again = direct ∧ other = direct := by
  intro donor variant moved method first second
  have hplain : ∀ instruction ∈ donor, instruction.PlainAccess := by decide
  have hmoved : (first.rebase donor method).result = .ok moved := rfl
  have hagain : (second.rebase moved method).result = .ok _ := rfl
  have hdirect : (second.rebase donor method).result = .ok _ := rfl
  have hother : (second.rebase variant method).result = .ok _ := rfl
  have hvariant : List.Forall₂ (Instruction.Variant (Equiv.swap 9 2) (Equiv.swap ⟨2⟩ ⟨7⟩)) donor
      variant := by
    refine .cons ?_ (.cons ?_ (.cons ?_ (.cons ?_ .nil)))
    · exact ⟨by decide, by decide, rfl, rfl, nofun, fun _ hslot => by cases hslot; exact ⟨rfl, rfl⟩⟩
    · exact ⟨by decide, by decide, rfl, rfl, fun _ => ⟨rfl, rfl⟩, nofun⟩
    · exact ⟨by decide, by decide, rfl, rfl, nofun, fun _ hslot => by cases hslot; exact ⟨rfl, rfl⟩⟩
    · exact ⟨by decide, by decide, rfl, rfl, fun _ => ⟨rfl, rfl⟩, nofun⟩
  obtain ⟨htwice, -, hvariants⟩ := Scope.rebase_canonical hplain
  refine ⟨hplain, hmoved, _, _, _, hagain, hdirect, hother, ?_, ?_⟩
  · exact htwice first second method method method _ _ _ hmoved (by decide) (by decide) hagain
      hdirect
  · exact hvariants variant _ _ hvariant (Equiv.injective _).injOn (Equiv.injective _).injOn second
      method method _ _ hdirect hother

end CilEdit
