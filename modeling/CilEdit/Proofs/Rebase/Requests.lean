import CilEdit.Proofs.Rebase.Counting
import CilEdit.Proofs.Rebase.Numbering
import CilEdit.Proofs.Rebase.Run

/-! What a renaming asks the allocators for. A visit asks for a counterpart just when there is none yet,
so after some code the allocators were asked once for each of its local variables, with the type of the
variable, and once for each of its labels, in order of first occurrence. This fixes the counterparts
and the state of the allocators, whatever kind of allocators they are. -/

namespace CilEdit

/-- The local variables that the code accesses, in order. -/
def Code.slots (code : Code) : List Slot := code.filterMap Instruction.localSlot?

/-- The labels of the code in order, those attached to an instruction before its jump targets. -/
def Code.labelsInUse (code : Code) : List Label := code.flatMap Scope.labelsOf

theorem Code.mem_slots_cons {instruction : Instruction} {code : Code} {slot : Slot} :
    slot ∈ Code.slots (instruction :: code) ↔
      instruction.localSlot? = some slot ∨ slot ∈ code.slots := by
  simp only [slots, List.mem_filterMap, List.mem_cons, or_and_right, exists_or, exists_eq_left]

namespace Rebase

/-- Asks for a counterpart of a local variable, given the types of the local variables. -/
def requestLocal {σ : Type} [LocalAllocator σ] (typeOf : Slot → Option TypeSig) (slot : Slot) :
    StateM σ Relocation :=
  modifyGet fun allocator =>
    let (target, after) := LocalAllocator.allocateLocal allocator (typeOf slot)
    (⟨slot, target, typeOf slot⟩, after)

/-- Asks for a counterpart of a label. -/
def requestLabel {τ : Type} [LabelAllocator τ] (label : Label) : StateM τ (Label × Label) := do
  let (target, allocator) := LabelAllocator.allocateLabel (← get)
  set allocator
  return (label, target)

end Rebase

open Rebase

/-! ### Requests for keys -/

section Keys

variable {κ α ω : Type} [DecidableEq κ] {request : κ → StateM α ω} {start state : α}
  {keys : List κ} {key : κ} {given : List ω}

/-- Whether every request is answered with its key and the next identifier, and the state counts on. -/
structure CountsOff {ι : Type} (request : κ → StateM α ω) (source : ω → κ) (target : ω → ι)
    (upcoming : α → ι) (next : ι → ι) : Prop where
  source_eq : ∀ key state, source ((request key).run state).1 = key
  target_eq : ∀ key state, target ((request key).run state).1 = upcoming state
  upcoming_eq : ∀ key state, upcoming ((request key).run state).2 = next (upcoming state)

/-- Whether what was given, the latest first, and the state come from requests for the keys in order of
first occurrence, one for each. -/
def Requested (request : κ → StateM α ω) (start : α) (keys : List κ) (given : List ω) (state : α) :
    Prop :=
  (keys.eraseDups.mapM request).run start = (given.reverse, state)

namespace Requested

theorem nil (request : κ → StateM α ω) (start : α) : Requested request start [] [] start := rfl

/-- A key that came before is not asked for again. -/
theorem append_of_mem (h : Requested request start keys given state) (hkey : key ∈ keys) :
    Requested request start (keys ++ [key]) given state := by
  rwa [Requested, eraseDups_append_of_mem hkey]

theorem append_of_not_mem (h : Requested request start keys given state) (hkey : key ∉ keys)
    {answer : ω} {next : α} (hnext : (request key).run state = (answer, next)) :
    Requested request start (keys ++ [key]) (answer :: given) next := by
  rw [Requested, eraseDups_append_of_not_mem hkey, List.mapM_append, StateT.run_bind, h]
  change (given.reverse ++ [((request key).run state).1], ((request key).run state).2) = _
  rw [hnext, List.reverse_cons]

section Source

variable {source : ω → κ} (hsource : ∀ key state, source ((request key).run state).1 = key)

include hsource

/-- If each answer tells its key, then the answers are for the keys in order of first occurrence. -/
theorem map_source (h : Requested request start keys given state) :
    given.reverse.map source = keys.eraseDups := by
  have hanswers : ∀ (asked : List κ) (start : α),
      ((asked.mapM request).run start).1.map source = asked := by
    intro asked
    induction asked with
    | nil => exact fun _ => rfl
    | cons key asked ih =>
        intro start
        rw [List.mapM_cons, StateT.run_bind]
        exact congrArg₂ List.cons (hsource key start) (ih _)
  have hgiven := hanswers keys.eraseDups start
  rwa [h] at hgiven

theorem nodup_source (h : Requested request start keys given state) :
    (given.map source).Nodup := by
  rw [← List.nodup_reverse, ← List.map_reverse, h.map_source hsource]
  exact nodup_eraseDups keys

theorem mem_source_iff (h : Requested request start keys given state) :
    key ∈ given.map source ↔ key ∈ keys := by
  rw [← List.mem_reverse, ← List.map_reverse, h.map_source hsource, List.mem_eraseDups]

end Source

section Counting

variable {ι : Type} {source : ω → κ} {target : ω → ι} {upcoming : α → ι} {next : ι → ι}
  (hrequest : CountsOff request source target upcoming next)

include hrequest

/-- The answers count off the identifiers from the first state to the last one. -/
theorem countedOff (h : Requested request start keys given state) :
    CountedOff next (upcoming start) (given.reverse.map target) (upcoming state) := by
  have hanswers : ∀ (asked : List κ) (start : α), CountedOff next (upcoming start)
      (((asked.mapM request).run start).1.map target)
      (upcoming ((asked.mapM request).run start).2) := by
    intro asked
    induction asked with
    | nil => exact fun _ => .nil _
    | cons key asked ih =>
        intro start
        have hone : CountedOff next (upcoming start) [target ((request key).run start).1]
            (upcoming ((request key).run start).2) := by
          rw [hrequest.target_eq, hrequest.upcoming_eq]
          exact .singleton _
        rw [List.mapM_cons, StateT.run_bind]
        exact hone.append (ih _)
  have hgiven := hanswers keys.eraseDups start
  rwa [h] at hgiven

/-- The keys are numbered by what they get. -/
theorem numbered {toNat : ι → Nat} {bound : Nat} {target? : κ → Option ι}
    (hcounts : Counts toNat next bound) (h : Requested request start keys given state)
    (hnone : ∀ key, target? key = none ↔ key ∉ keys)
    (hsome : ∀ answer ∈ given, target? (source answer) = some (target answer)) :
    Numbered (toNat (upcoming start)) bound keys (fun key => (target? key).map toNat)
      (toNat (upcoming state)) := by
  have hcounted := h.countedOff hrequest
  have hsources := h.map_source hrequest.source_eq
  have hlength : (given.reverse.map target).length = keys.eraseDups.length := by
    rw [← hsources, List.length_map, List.length_map]
  refine ⟨?_, fun key => ?_⟩
  · rw [hcounted.toNat_upcoming hcounts, hlength]
  · split
    · rename_i hkey
      have hindex := List.idxOf_lt_length_of_mem (List.mem_eraseDups.mpr hkey)
      have hplace := List.getElem?_idxOf (List.mem_eraseDups.mpr hkey)
      have hiterate := List.getElem?_iterate next (upcoming start) _ _ (hlength ▸ hindex)
      rw [← hcounted.keys_eq, List.getElem?_map] at hiterate
      obtain ⟨answer, hanswer, htarget⟩ := Option.map_eq_some_iff.mp hiterate
      rw [← hsources, List.getElem?_map, hsources, hanswer, Option.map_some, Option.some_inj] at hplace
      have hmem := List.mem_reverse.mp (List.mem_of_getElem? hanswer)
      have hfound := hsome answer hmem
      rw [hplace, htarget] at hfound
      rw [hfound, Option.map_some, hcounts.toNat_iterate]
    · rename_i hkey
      rw [(hnone key).mpr hkey, Option.map_none]

end Counting

end Requested

end Keys

/-! ### Requests of a renaming -/

namespace Renaming

variable {σ τ : Type}

theorem local?_eq_none_iff (names : Renaming σ τ) (slot : Slot) :
    names.local? slot = none ↔ slot ∉ names.locals.map Relocation.source := by
  simp [local?]

theorem label?_eq_none_iff (names : Renaming σ τ) (label : Label) :
    names.label? label = none ↔ label ∉ names.labels.map Prod.fst := by
  rw [label?, List.lookup_eq_none_iff, List.mem_map]
  constructor
  · rintro hnone ⟨entry, hentry, rfl⟩
    exact absurd rfl (bne_iff_ne.mp (hnone entry hentry))
  · intro hnot entry hentry
    exact bne_iff_ne.mpr fun heq => hnot ⟨entry, hentry, heq.symm⟩

variable [LocalAllocator σ] [LabelAllocator τ]

/-- Whether the counterparts and the allocators are what comes of asking `locals` and `labels` for the
local variables and the labels that came, once for each. -/
structure Asked (typeOf : Slot → Option TypeSig) (locals : σ) (labels : τ) (slots : List Slot)
    (keys : List Label) (names : Renaming σ τ) : Prop where
  locals : Requested (requestLocal typeOf) locals slots names.locals names.localAllocator
  labels : Requested requestLabel labels keys names.labels names.labelAllocator

namespace Asked

variable {typeOf : Slot → Option TypeSig} {locals : σ} {labels : τ} {slots : List Slot}
  {keys : List Label} {names : Renaming σ τ}

theorem start (typeOf : Slot → Option TypeSig) (locals : σ) (labels : τ) :
    Asked typeOf locals labels [] [] ⟨[], [], locals, labels⟩ := ⟨.nil _ _, .nil _ _⟩

theorem local?_eq_none_iff (h : names.Asked typeOf locals labels slots keys) (slot : Slot) :
    names.local? slot = none ↔ slot ∉ slots := by
  rw [Renaming.local?_eq_none_iff, h.locals.mem_source_iff fun _ _ => rfl]

theorem label?_eq_none_iff (h : names.Asked typeOf locals labels slots keys) (label : Label) :
    names.label? label = none ↔ label ∉ keys := by
  rw [Renaming.label?_eq_none_iff, h.labels.mem_source_iff fun _ _ => rfl]

/-- Every local variable has one counterpart only. -/
theorem local?_of_mem (h : names.Asked typeOf locals labels slots keys) {relocation : Relocation}
    (hmem : relocation ∈ names.locals) : names.local? relocation.source = some relocation.target := by
  have hnodup : (names.locals.map Relocation.source).Nodup :=
    h.locals.nodup_source fun _ _ => rfl
  obtain ⟨before, after, hsplit⟩ := List.append_of_mem hmem
  rw [hsplit, List.map_append, List.nodup_append] at hnodup
  have hbefore : ∀ other ∈ before, other.source ≠ relocation.source := fun other hother =>
    hnodup.2.2 _ (List.mem_map_of_mem hother) _ List.mem_cons_self
  rw [local?, hsplit, List.find?_append, List.find?_eq_none.mpr (by simpa using hbefore)]
  simp

/-- Every label has one counterpart only. -/
theorem label?_of_mem (h : names.Asked typeOf locals labels slots keys) {entry : Label × Label}
    (hmem : entry ∈ names.labels) : names.label? entry.1 = some entry.2 := by
  have hnodup : (names.labels.map Prod.fst).Nodup := h.labels.nodup_source fun _ _ => rfl
  obtain ⟨before, after, hsplit⟩ := List.append_of_mem hmem
  rw [hsplit, List.map_append, List.nodup_append] at hnodup
  refine List.lookup_eq_some_iff.mpr ⟨before, after, hsplit, fun other hother => ?_⟩
  exact bne_iff_ne.mpr
    (hnodup.2.2 _ (List.mem_map_of_mem hother) _ List.mem_cons_self).symm

theorem visitLocal (h : names.Asked typeOf locals labels slots keys) (slot : Slot) :
    (names.visitLocal slot (typeOf slot)).Asked typeOf locals labels (slots ++ [slot]) keys := by
  unfold Renaming.visitLocal
  cases hslot : names.local? slot with
  | some target =>
      have hmem : slot ∈ slots := by
        by_contra hnot
        cases hslot.symm.trans ((h.local?_eq_none_iff slot).mpr hnot)
      exact ⟨h.locals.append_of_mem hmem, h.labels⟩
  | none =>
      exact ⟨h.locals.append_of_not_mem ((h.local?_eq_none_iff slot).mp hslot) rfl, h.labels⟩

theorem visitLabel (h : names.Asked typeOf locals labels slots keys) (label : Label) :
    (names.visitLabel label).Asked typeOf locals labels slots (keys ++ [label]) := by
  unfold Renaming.visitLabel
  cases hlabel : names.label? label with
  | some target =>
      have hmem : label ∈ keys := by
        by_contra hnot
        cases hlabel.symm.trans ((h.label?_eq_none_iff label).mpr hnot)
      exact ⟨h.locals, h.labels.append_of_mem hmem⟩
  | none =>
      exact ⟨h.locals, h.labels.append_of_not_mem ((h.label?_eq_none_iff label).mp hlabel) rfl⟩

theorem visitLabels (h : names.Asked typeOf locals labels slots keys) (more : List Label) :
    (names.visitLabels more).Asked typeOf locals labels slots (keys ++ more) := by
  induction more generalizing names keys with
  | nil => rwa [List.append_nil]
  | cons label more ih =>
      rw [← List.singleton_append, ← List.append_assoc]
      exact ih (h.visitLabel label)

/-- After some code the allocators were asked for its local variables and its labels, in order of first
occurrence. -/
theorem foldl_visit (h : names.Asked typeOf locals labels slots keys) (code : Code) :
    (code.foldl (visit typeOf) names).Asked typeOf locals labels (slots ++ code.slots)
      (keys ++ code.labelsInUse) := by
  induction code generalizing names slots keys with
  | nil => rwa [Code.slots, Code.labelsInUse, List.filterMap_nil, List.flatMap_nil, List.append_nil,
      List.append_nil]
  | cons instruction code ih =>
      rw [List.foldl_cons, visit, visitAccess, Code.slots, Code.labelsInUse, List.flatMap_cons,
        ← List.append_assoc]
      cases hslot : instruction.localSlot? with
      | none =>
          rw [List.filterMap_cons_none hslot]
          exact ih (h.visitLabels _)
      | some slot =>
          rw [List.filterMap_cons_some hslot, ← List.singleton_append, ← List.append_assoc]
          exact ih ((h.visitLocal slot).visitLabels _)

end Asked

end Renaming

section Call

variable {σ τ : Type} [LocalAllocator σ] [LabelAllocator τ] {donor code : Code} {method : Method}
  {locals : σ} {labels : τ}

/-- A call that succeeds has asked for all local variables and labels of the donor. -/
theorem asked_rebase (h : (rebase donor method locals labels).result = .ok code) :
    (rebase donor method locals labels).names.Asked (slotType donor method) locals labels
      donor.slots donor.labelsInUse := by
  rw [(eq_of_rebase h).1]
  exact (Renaming.Asked.start (slotType donor method) locals labels).foldl_visit donor

theorem exists_local?_of_rebase (h : (rebase donor method locals labels).result = .ok code)
    {slot : Slot} (hslot : slot ∈ donor.slots) :
    ∃ target, (rebase donor method locals labels).names.local? slot = some target :=
  Option.ne_none_iff_exists'.mp fun hnone =>
    ((asked_rebase h).local?_eq_none_iff slot).mp hnone hslot

theorem exists_label?_of_rebase (h : (rebase donor method locals labels).result = .ok code)
    {label : Label} (hlabel : label ∈ donor.labelsInUse) :
    ∃ target, (rebase donor method locals labels).names.label? label = some target :=
  Option.ne_none_iff_exists'.mp fun hnone =>
    ((asked_rebase h).label?_eq_none_iff label).mp hnone hlabel

end Call

end CilEdit
