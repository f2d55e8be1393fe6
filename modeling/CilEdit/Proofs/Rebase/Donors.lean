import CilEdit.Proofs.Rebase.Failure
import CilEdit.Proofs.Rebase.Fresh
import CilEdit.Proofs.Rebase.Injective

/-! Several donors in one scope. Every call starts with counterparts of its own and goes on counting
where the call before it stopped, whether that one succeeded or failed on the way. So all that the
calls give out is one stretch of each counter, and as long as a counter is below its bound nothing on
it comes twice: not within a call, and not in two of them. -/

namespace CilEdit

/-! ### One call -/

namespace Renaming

/-- The local variables that were given out, in order. -/
def givenSlots {σ τ : Type} (names : Renaming σ τ) : List Slot :=
  (names.locals.map Relocation.target).reverse

/-- The labels that were given out, in order. -/
def givenLabels {σ τ : Type} (names : Renaming σ τ) : List Label :=
  (names.labels.map Prod.snd).reverse

theorem mem_givenSlots {σ τ : Type} {names : Renaming σ τ} {slot target : Slot}
    (h : names.local? slot = some target) : target ∈ names.givenSlots := by
  obtain ⟨relocation, hfind, rfl⟩ := Option.map_eq_some_iff.mp h
  exact List.mem_reverse.mpr (List.mem_map_of_mem (List.mem_of_find?_eq_some hfind))

theorem mem_givenLabels {σ τ : Type} {names : Renaming σ τ} {label target : Label}
    (h : names.label? label = some target) : target ∈ names.givenLabels := by
  obtain ⟨before, after, hlabels, -⟩ := List.lookup_eq_some_iff.mp h
  rw [givenLabels, hlabels]
  simp

/-- Whether what was given out since the scope was `first` was counted off from there. The pool keeps
the slots behind those that it gave out before. -/
structure CountsOn (first : Scope) (names : Renaming SlotPool LabelPool) : Prop where
  slots : CountedOff Slot.next first.locals.next names.givenSlots names.localAllocator.next
  labels : CountedOff Label.next first.labels.next names.givenLabels names.labelAllocator.next
  kept : names.localAllocator.allocated.map Prod.fst =
    first.locals.allocated.map Prod.fst ++ names.givenSlots

theorem Asked.countsOn {first : Scope} {names : Renaming SlotPool LabelPool}
    {typeOf : Slot → Option TypeSig} {slots : List Slot} {keys : List Label}
    (h : names.Asked typeOf first.locals first.labels slots keys) : names.CountsOn first where
  slots := by
    rw [givenSlots, ← List.map_reverse]
    exact h.locals.countedOff (SlotPool.countsOff typeOf)
  labels := by
    rw [givenLabels, ← List.map_reverse]
    exact h.labels.countedOff LabelPool.countsOff
  kept := by
    have hallocated := SlotPool.allocated_requestLocal typeOf slots.eraseDups first.locals
    rw [h.locals] at hallocated
    rw [hallocated, List.map_append, List.map_map, givenSlots, ← List.map_reverse]
    rfl

end Renaming

open Rebase Renaming

/-- A call gives out what the visits of some first instructions of the donor give out, all of them if
it succeeds. -/
theorem exists_visited_of_rebase {σ τ : Type} [LocalAllocator σ] [LabelAllocator τ] (donor : Code)
    (method : Method) (locals : σ) (labels : τ) :
    ∃ visited, visited <+: donor ∧ (rebase donor method locals labels).names =
      visited.foldl (visit (slotType donor method)) ⟨[], [], locals, labels⟩ := by
  cases hresult : (rebase donor method locals labels).result with
  | ok code => exact ⟨donor, List.prefix_refl donor, (eq_of_rebase hresult).1⟩
  | error failure =>
      obtain ⟨earlier, instruction, rest, slot, hfails⟩ :=
        (result_eq_error_iff locals labels).mp hresult
      refine ⟨earlier, ?_, congrArg Rebased.names (rebase_of_failsAt hfails locals labels)⟩
      rw [hfails.split]
      exact List.prefix_append earlier _

theorem countsOn_rebase (scope : Scope) (donor : Code) (method : Method) :
    (scope.rebase donor method).names.CountsOn scope := by
  obtain ⟨visited, -, hnames⟩ :=
    exists_visited_of_rebase donor method scope.locals scope.labels
  have hstart := Asked.start (slotType donor method) scope.locals scope.labels
  rw [Scope.rebase, hnames]
  exact (hstart.foldl_visit visited).countsOn

namespace Code

theorem labelsInUse_map_rename (code : Code) (f : Slot → Slot) (g : Label → Label) :
    Code.labelsInUse (code.map fun instruction => instruction.rename f g) =
      code.labelsInUse.map g := by
  rw [labelsInUse, labelsInUse, List.flatMap_map, List.map_flatMap]
  simp only [Scope.labelsOf, Instruction.labels_rename, Instruction.targets_rename,
    List.map_append]

theorem exists_mem_slots_of_map_rename {code : Code} {f : Slot → Slot} {g : Label → Label}
    {target : Slot}
    (h : target ∈ Code.slots (code.map fun instruction => instruction.rename f g)) :
    ∃ slot ∈ code.slots, f slot = target := by
  obtain ⟨renamed, hrenamed, htarget⟩ := List.mem_filterMap.mp h
  obtain ⟨instruction, hmem, rfl⟩ := List.mem_map.mp hrenamed
  obtain ⟨slot, hslot, heq⟩ := Instruction.exists_localSlot?_of_rename htarget
  exact ⟨slot, List.mem_filterMap.mpr ⟨instruction, hmem, hslot⟩, heq⟩

end Code

namespace Rebased

/-- The code that came out, none if the call failed. -/
def code {σ τ : Type} (rebased : Rebased σ τ) : Code :=
  match rebased.result with
  | .ok code => code
  | .error _ => []

end Rebased

section Call

variable {scope : Scope} {donor code : Code} {method : Method}

theorem localMap_mem_givenSlots (h : (scope.rebase donor method).result = .ok code) {slot : Slot}
    (hslot : slot ∈ donor.slots) : (scope.rebase donor method).names.localMap slot ∈
      (scope.rebase donor method).names.givenSlots := by
  obtain ⟨target, htarget⟩ := exists_local?_of_rebase h hslot
  rw [localMap, Scope.rebase, htarget, Option.getD_some]
  exact mem_givenSlots htarget

theorem labelMap_mem_givenLabels (h : (scope.rebase donor method).result = .ok code)
    {label : Label} (hlabel : label ∈ donor.labelsInUse) :
    (scope.rebase donor method).names.labelMap label ∈
      (scope.rebase donor method).names.givenLabels := by
  obtain ⟨target, htarget⟩ := exists_label?_of_rebase h hlabel
  rw [labelMap, Scope.rebase, htarget, Option.getD_some]
  exact mem_givenLabels htarget

/-- The local variables and the labels of the code that comes out were given out by the call. -/
theorem code_subset_given (scope : Scope) (donor : Code) (method : Method) :
    (scope.rebase donor method).code.slots ⊆ (scope.rebase donor method).names.givenSlots ∧
      (scope.rebase donor method).code.labelsInUse ⊆
        (scope.rebase donor method).names.givenLabels := by
  rw [Rebased.code]
  cases hresult : (scope.rebase donor method).result with
  | error failure => exact ⟨List.nil_subset _, List.nil_subset _⟩
  | ok code =>
      simp only
      rw [(eq_of_rebase hresult).2, Code.labelsInUse_map_rename]
      constructor
      · intro target htarget
        obtain ⟨slot, hslot, rfl⟩ := Code.exists_mem_slots_of_map_rename htarget
        exact localMap_mem_givenSlots hresult hslot
      · intro target htarget
        obtain ⟨label, hlabel, rfl⟩ := List.mem_map.mp htarget
        exact labelMap_mem_givenLabels hresult hlabel

/-- Code that comes out is the donor renamed by injective maps if the pools do not reach their greatest
identifiers. -/
theorem exists_injective_of_rebase (h : (scope.rebase donor method).result = .ok code)
    (hlocals : (scope.rebase donor method).scope.locals.next ≠ 65535)
    (hlabels : (scope.rebase donor method).scope.labels.next ≠ ⟨4294967295⟩) :
    ∃ (f : Slot → Slot) (g : Label → Label), f.Injective ∧ g.Injective ∧
      code = donor.map fun instruction => instruction.rename f g := by
  obtain ⟨f, hf, hlocalMap, -⟩ := exists_localMap h hlocals
  obtain ⟨g, hg, hlabelMap, -⟩ := exists_labelMap h hlabels
  exact ⟨f, g, hf, hg, (eq_of_rebase h).2.trans (Code.map_rename_congr hlocalMap hlabelMap)⟩

end Call

/-! ### Any number of calls -/

namespace Scope

/-- Rebases several donors, each with its own method. A call goes on from the pools that the one
before it left. -/
def rebaseAll (scope : Scope) : List (Code × Method) → List (Rebased SlotPool LabelPool)
  | [] => []
  | (donor, method) :: donors =>
    let rebased := scope.rebase donor method
    rebased :: rebased.scope.rebaseAll donors

/-- The scope that is left after all donors. -/
def afterAll (scope : Scope) (donors : List (Code × Method)) : Scope :=
  donors.foldl (fun scope (donor, method) => (scope.rebase donor method).scope) scope

/-- If each call counts off what it gives out, then all calls together do. -/
theorem countedOff_rebaseAll {κ : Type} {next : κ → κ} (upcoming : Scope → κ)
    {given : Renaming SlotPool LabelPool → List κ}
    (hcall : ∀ scope donor method, CountedOff next (upcoming scope)
      (given (Scope.rebase scope donor method).names)
      (upcoming (Scope.rebase scope donor method).scope))
    (scope : Scope) (donors : List (Code × Method)) :
    CountedOff next (upcoming scope)
      ((scope.rebaseAll donors).flatMap fun rebased => given rebased.names)
      (upcoming (scope.afterAll donors)) := by
  induction donors generalizing scope with
  | nil => exact .nil _
  | cons donor donors ih =>
      exact (hcall scope donor.1 donor.2).append (ih (scope.rebase donor.1 donor.2).scope)

theorem countedOff_slots (scope : Scope) (donors : List (Code × Method)) :
    CountedOff Slot.next scope.locals.next
      ((scope.rebaseAll donors).flatMap fun rebased => rebased.names.givenSlots)
      (scope.afterAll donors).locals.next :=
  countedOff_rebaseAll (fun scope => scope.locals.next)
    (fun scope donor method => (countsOn_rebase scope donor method).slots) scope donors

theorem countedOff_labels (scope : Scope) (donors : List (Code × Method)) :
    CountedOff Label.next scope.labels.next
      ((scope.rebaseAll donors).flatMap fun rebased => rebased.names.givenLabels)
      (scope.afterAll donors).labels.next :=
  countedOff_rebaseAll (fun scope => scope.labels.next)
    (fun scope donor method => (countsOn_rebase scope donor method).labels) scope donors

theorem allocated_afterAll (scope : Scope) (donors : List (Code × Method)) :
    (scope.afterAll donors).locals.allocated.map Prod.fst = scope.locals.allocated.map Prod.fst ++
      (scope.rebaseAll donors).flatMap fun rebased => rebased.names.givenSlots := by
  induction donors generalizing scope with
  | nil => exact (List.append_nil _).symm
  | cons donor donors ih =>
      have hcall := (countsOn_rebase scope donor.1 donor.2).kept
      rw [rebaseAll, List.flatMap_cons, ← List.append_assoc, ← hcall]
      exact ih (scope.rebase donor.1 donor.2).scope

theorem given_of_mem {scope : Scope} {donors : List (Code × Method)}
    {call : Rebased SlotPool LabelPool} (h : call ∈ scope.rebaseAll donors) :
    call.code.slots ⊆ call.names.givenSlots ∧ call.code.labelsInUse ⊆ call.names.givenLabels := by
  induction donors generalizing scope with
  | nil => cases h
  | cons donor donors ih =>
      rcases List.mem_cons.mp h with rfl | h
      · exact code_subset_given scope donor.1 donor.2
      · exact ih h

theorem forall₂_rebaseAll {scope : Scope} {donors : List (Code × Method)}
    (hlocals : (scope.afterAll donors).locals.next ≠ 65535)
    (hlabels : (scope.afterAll donors).labels.next ≠ ⟨4294967295⟩) :
    List.Forall₂ (fun donor call => ∃ (f : Slot → Slot) (g : Label → Label),
      f.Injective ∧ g.Injective ∧ ∀ code, call.result = .ok code →
        code = donor.1.map fun instruction => instruction.rename f g)
      donors (scope.rebaseAll donors) := by
  induction donors generalizing scope with
  | nil => exact .nil
  | cons donor donors ih =>
      refine .cons ?_ (ih hlocals hlabels)
      have hcallLocals := (countedOff_slots _ donors).ne_of_upcoming_ne Slot.counts rfl hlocals
      have hcallLabels := (countedOff_labels _ donors).ne_of_upcoming_ne Label.counts rfl hlabels
      cases hresult : (scope.rebase donor.1 donor.2).result with
      | error failure => exact ⟨id, id, Function.injective_id, Function.injective_id, nofun⟩
      | ok code =>
          obtain ⟨f, g, hf, hg, hcode⟩ :=
            exists_injective_of_rebase hresult hcallLocals hcallLabels
          refine ⟨f, g, hf, hg, fun other hother => ?_⟩
          cases hother
          exact hcode

/-- As long as the pools do not reach their greatest identifiers, the code that comes out of different
calls has no local variable and no label in common, none of them is below the first identifiers of the
scope, and in each call the local variables and the labels of the donor stay different. What a call
gave out, also one that failed, is given out by no later one and lies below what the pools give out
next. The pool of local variables keeps all of it. -/
theorem rebaseAll_apart (scope : Scope) (donors : List (Code × Method))
    (hlocals : (scope.afterAll donors).locals.next ≠ 65535)
    (hlabels : (scope.afterAll donors).labels.next ≠ ⟨4294967295⟩) :
    let calls := scope.rebaseAll donors
    let left := scope.afterAll donors
    (calls.Pairwise fun earlier later => earlier.code.slots.Disjoint later.code.slots ∧
      earlier.code.labelsInUse.Disjoint later.code.labelsInUse) ∧
    (∀ call ∈ calls, (∀ slot ∈ call.code.slots, scope.locals.next ≤ slot) ∧
      ∀ label ∈ call.code.labelsInUse, scope.labels.next.id ≤ label.id) ∧
    List.Forall₂ (fun donor call => ∃ (f : Slot → Slot) (g : Label → Label),
      f.Injective ∧ g.Injective ∧ ∀ code, call.result = .ok code →
        code = donor.1.map fun instruction => instruction.rename f g) donors calls ∧
    (calls.Pairwise fun earlier later =>
      earlier.names.givenSlots.Disjoint later.names.givenSlots ∧
      earlier.names.givenLabels.Disjoint later.names.givenLabels) ∧
    left.locals.allocated.map Prod.fst = scope.locals.allocated.map Prod.fst ++
      calls.flatMap (fun call => call.names.givenSlots) ∧
    ∀ call ∈ calls, (∀ slot ∈ call.names.givenSlots, slot < left.locals.next) ∧
      ∀ label ∈ call.names.givenLabels, label.id < left.labels.next.id := by
  intro calls left
  have hslots := countedOff_slots scope donors
  have hnumbers := countedOff_labels scope donors
  have hlocalBound := toNat_next_lt_of_ne hlocals
  have hlabelBound := toNat_id_lt_of_ne hlabels
  have hgiven : calls.Pairwise fun earlier later =>
      earlier.names.givenSlots.Disjoint later.names.givenSlots ∧
      earlier.names.givenLabels.Disjoint later.names.givenLabels :=
    (hslots.pairwise_disjoint Slot.counts hlocalBound).and
      (hnumbers.pairwise_disjoint Label.counts hlabelBound)
  have hslotRange : ∀ call ∈ calls, ∀ slot ∈ call.names.givenSlots,
      scope.locals.next ≤ slot ∧ slot < left.locals.next := by
    intro call hcall slot hslot
    exact hslots.mem_range Slot.counts hlocalBound (List.mem_flatMap.mpr ⟨call, hcall, hslot⟩)
  have hlabelRange : ∀ call ∈ calls, ∀ label ∈ call.names.givenLabels,
      scope.labels.next.id ≤ label.id ∧ label.id < left.labels.next.id := by
    intro call hcall label hlabel
    exact hnumbers.mem_range Label.counts hlabelBound
      (List.mem_flatMap.mpr ⟨call, hcall, hlabel⟩)
  refine ⟨?_, ?_, forall₂_rebaseAll hlocals hlabels, hgiven, scope.allocated_afterAll donors, ?_⟩
  · refine hgiven.imp_of_mem fun {earlier later} hearlier hlater hdisjoint => ?_
    obtain ⟨hearlierSlots, hearlierLabels⟩ := given_of_mem hearlier
    obtain ⟨hlaterSlots, hlaterLabels⟩ := given_of_mem hlater
    obtain ⟨hdisjointSlots, hdisjointLabels⟩ := hdisjoint
    exact ⟨fun slot hslot hother => hdisjointSlots (hearlierSlots hslot) (hlaterSlots hother),
      fun label hlabel hother => hdisjointLabels (hearlierLabels hlabel) (hlaterLabels hother)⟩
  · intro call hcall
    obtain ⟨hcodeSlots, hcodeLabels⟩ := given_of_mem hcall
    exact ⟨fun slot hslot => (hslotRange call hcall slot (hcodeSlots hslot)).1,
      fun label hlabel => (hlabelRange call hcall label (hcodeLabels hlabel)).1⟩
  · intro call hcall
    exact ⟨fun slot hslot => (hslotRange call hcall slot hslot).2,
      fun label hlabel => (hlabelRange call hcall label hlabel).2⟩

/-- A donor whose second local variable cannot be typed, between two calls for the same loop. -/
theorem rebaseAll_apart_loop :
    let method : Method := ⟨.object, "Next", ⟨.plain, [], .void⟩, [.int32]⟩
    let loop : Code := [⟨.stloc0, .none, [⟨5⟩], []⟩, ⟨.br, .target ⟨5⟩, [], []⟩]
    let broken : Code := [⟨.ldloc0, .none, [⟨5⟩], []⟩, .make .call, .make .stloc1]
    let donors : List (Code × Method) := [(loop, method), (broken, method), (loop, method)]
    let scope := startingAt 2 ⟨3⟩
    let calls := scope.rebaseAll donors
    (scope.afterAll donors).locals.next ≠ 65535 ∧
      (scope.afterAll donors).labels.next ≠ ⟨4294967295⟩ ∧
      (calls.map fun call => (call.result.isOk, call.names.givenSlots, call.names.givenLabels)) =
        [(true, [2], [⟨3⟩]), (false, [3], [⟨4⟩]), (true, [4], [⟨5⟩])] ∧
      calls.Pairwise fun earlier later => earlier.code.slots.Disjoint later.code.slots ∧
        earlier.code.labelsInUse.Disjoint later.code.labelsInUse := by
  intro method loop broken donors scope calls
  have hlocals : (scope.afterAll donors).locals.next ≠ 65535 := by decide
  have hlabels : (scope.afterAll donors).labels.next ≠ ⟨4294967295⟩ := by decide
  obtain ⟨happart, -⟩ := rebaseAll_apart scope donors hlocals hlabels
  exact ⟨hlocals, hlabels, by decide, happart⟩

end Scope

end CilEdit
