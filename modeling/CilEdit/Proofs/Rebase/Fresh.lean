import CilEdit.Proofs.Rebase.Pools

/-! Which identifiers the scope of a method hands out. A pool starts behind all that are in use and
counts upwards to the greatest one, where it stays. So it hands out different identifiers that are not
in use just as long as there are some behind all those in use, however many are free before them. Once
the greatest one is in use, not even the first that is handed out is fresh. -/

namespace CilEdit

/-! ### Numbers behind all keys in use -/

/-- Whether `first` is the first number behind all keys in use, or `bound` if there is none. -/
structure Behind {κ : Type} (toNat : κ → Nat) (bound : Nat) (InUse : κ → Prop) (first : Nat) :
    Prop where
  le_first : ∀ key, InUse key → min (toNat key + 1) bound ≤ first
  attained : first = 0 ∨ ∃ key, InUse key ∧ first = min (toNat key + 1) bound

section Counting

variable {κ : Type} {toNat : κ → Nat} {next : κ → κ} {bound : Nat} {InUse : κ → Prop}

/-- Below the bound the first number is behind every key in use. -/
theorem Behind.toNat_lt {first : Nat} (h : Behind toNat bound InUse first) {key : κ}
    (hkey : InUse key) (hbound : toNat key < bound ∨ first < bound) : toNat key < first := by
  have hle := h.le_first key hkey
  omega

/-- One more key in use. -/
theorem Behind.insert {first : Nat} (h : Behind toNat bound InUse first) (key : κ) :
    Behind toNat bound (fun other => InUse other ∨ other = key)
      (max first (min (toNat key + 1) bound)) where
  le_first other hother := by
    rcases hother with hother | rfl
    · exact le_max_of_le_left (h.le_first other hother)
    · exact le_max_right _ _
  attained := by
    rcases le_total first (min (toNat key + 1) bound) with hle | hle
    · exact Or.inr ⟨key, Or.inr rfl, max_eq_right hle⟩
    · rw [max_eq_left hle]
      exact h.attained.imp_right fun ⟨last, hlast, heq⟩ => ⟨last, Or.inl hlast, heq⟩

theorem Behind.foldl {β : Type} {value : β → Nat} {step : β → κ → β}
    (hstep : ∀ state key, value (step state key) = max (value state) (min (toNat key + 1) bound))
    {state : β} (h : Behind toNat bound InUse (value state)) (keys : List κ) :
    Behind toNat bound (fun key => InUse key ∨ key ∈ keys) (value (keys.foldl step state)) := by
  induction keys generalizing InUse state with
  | nil =>
      rw [List.foldl_nil]
      simpa only [List.not_mem_nil, or_false] using h
  | cons key keys ih =>
      have hinsert := h.insert key
      rw [← hstep] at hinsert
      rw [List.foldl_cons]
      simpa only [List.mem_cons, or_assoc] using ih hinsert

/-- Counting on from behind all keys in use gives different keys that are not in use just as long as
there are so many behind all those in use. -/
theorem Counts.fresh_iterate_iff (h : Counts toNat next bound) (first : κ) (count : Nat)
    (hfirst : Behind toNat bound InUse (toNat first)) :
    ((List.iterate next first count).Nodup ∧
        ∀ key ∈ List.iterate next first count, ¬InUse key) ↔
      count ≤ bound + 1 ∧ ∀ key, InUse key → toNat key + count ≤ bound := by
  rw [h.nodup_iterate_iff]
  constructor
  · rintro ⟨hnodup, hfresh⟩
    refine ⟨by omega, fun key hkey => ?_⟩
    have hle := h.le_bound key
    by_cases hcount : count = 0
    · omega
    · have hmem : first ∈ List.iterate next first count :=
        List.mem_iterate.mpr ⟨0, by omega, rfl⟩
      have hne : toNat key ≠ toNat first := fun heq =>
        hfresh first hmem (h.injective heq ▸ hkey)
      have hlast := h.le_bound first
      have hbehind := hfirst.le_first key hkey
      omega
  · rintro ⟨hcount, hroom⟩
    constructor
    · rcases hfirst.attained with hzero | ⟨last, hlast, heq⟩
      · omega
      · have hlastRoom := hroom last hlast
        omega
    · intro key hmem hkey
      obtain ⟨steps, hsteps, rfl⟩ := List.mem_iterate.mp hmem
      have hkeyRoom := hroom _ hkey
      have hlt := hfirst.toNat_lt hkey (Or.inl (by omega))
      rw [h.toNat_iterate] at hlt
      have hlast := h.le_bound first
      omega

end Counting

/-! ### Identifiers in use -/

/-- Whether the method declares the slot or its code accesses it. -/
def Slot.InUse (method : Method) (code : Code) (slot : Slot) : Prop :=
  slot.toNat < method.locals.length ∨ slot ∈ code.slots

instance (method : Method) (code : Code) : DecidablePred (Slot.InUse method code) := fun slot =>
  inferInstanceAs (Decidable (slot.toNat < method.locals.length ∨ slot ∈ code.slots))

namespace Scope

theorem behind_declared (method : Method) :
    Behind UInt16.toNat 65535 (fun slot => slot.toNat < method.locals.length)
      (UInt16.ofNat (min method.locals.length 65535)).toNat := by
  have hdeclared : (UInt16.ofNat (min method.locals.length 65535)).toNat =
      min method.locals.length 65535 :=
    UInt16.toNat_ofNat_of_lt' (Nat.lt_succ_of_le (Nat.min_le_right _ _))
  rw [hdeclared]
  refine ⟨fun slot hslot => by omega, ?_⟩
  by_cases hzero : method.locals.length = 0
  · exact Or.inl (by omega)
  · have hlast : (UInt16.ofNat (min method.locals.length 65536 - 1)).toNat =
        min method.locals.length 65536 - 1 := UInt16.toNat_ofNat_of_lt' (by change _ < 65536; omega)
    refine Or.inr ⟨UInt16.ofNat (min method.locals.length 65536 - 1), ?_, ?_⟩
    · rw [hlast]
      omega
    · rw [hlast]
      omega

theorem behind_firstFreeLocal (method : Method) (code : Code) :
    Behind UInt16.toNat 65535 (Slot.InUse method code) (firstFreeLocal method code).toNat := by
  refine (behind_declared method).foldl (fun first slot => ?_) code.slots
  rw [← Slot.toNat_next, UInt16.toNat_max]

theorem behind_firstFreeLabel (code : Code) :
    Behind (fun label : Label => label.id.toNat) 4294967295 (· ∈ code.labelsInUse)
      (firstFreeLabel code).id.toNat := by
  have hnone : Behind (fun label : Label => label.id.toNat) 4294967295 (fun _ => False)
      (0 : UInt32).toNat := ⟨nofun, Or.inl rfl⟩
  have hstep : ∀ (first : UInt32) (label : Label), (max first label.next.id).toNat =
      max first.toNat (min (label.id.toNat + 1) 4294967295) := by
    intro first label
    rw [← Label.toNat_next, UInt32.toNat_max]
  have hfold := hnone.foldl hstep code.labelsInUse
  simp only [false_or] at hfold
  exact hfold

end Scope

/-! ### Identifiers that are handed out -/

/-- The slots that an allocator hands out for values of the given types, one after the other. -/
def LocalAllocator.handOut {σ : Type} [LocalAllocator σ] (allocator : σ) :
    List (Option TypeSig) → List Slot
  | [] => []
  | type :: types =>
    let (slot, after) := allocateLocal allocator type
    slot :: handOut after types

/-- The first labels that an allocator hands out. -/
def LabelAllocator.handOut {τ : Type} [LabelAllocator τ] (allocator : τ) : Nat → List Label
  | 0 => []
  | count + 1 =>
    let (label, after) := allocateLabel allocator
    label :: handOut after count

theorem SlotPool.handOut_eq (pool : SlotPool) (types : List (Option TypeSig)) :
    LocalAllocator.handOut pool types = List.iterate Slot.next pool.next types.length := by
  induction types generalizing pool with
  | nil => rfl
  | cons type types ih =>
      exact congrArg (pool.next :: ·) (ih _)

theorem LabelPool.handOut_eq (pool : LabelPool) (count : Nat) :
    LabelAllocator.handOut pool count = List.iterate Label.next pool.next count := by
  induction count generalizing pool with
  | zero => rfl
  | succ count ih =>
      exact congrArg (pool.next :: ·) (ih _)

namespace Scope

/-- The scope of a method hands out different slots that are not in use just as long as there are so
many behind all those in use, and labels likewise. -/
theorem fresh_forBody_iff (method : Method) (code : Code) (types : List (Option TypeSig))
    (count : Nat) :
    let slots := LocalAllocator.handOut (forBody method code).locals types
    let labels := LabelAllocator.handOut (forBody method code).labels count
    ((slots.Nodup ∧ ∀ slot ∈ slots, ¬slot.InUse method code) ↔
      types.length ≤ 65536 ∧
        ∀ slot : Slot, slot.InUse method code → slot.toNat + types.length ≤ 65535) ∧
    ((labels.Nodup ∧ ∀ label ∈ labels, label ∉ code.labelsInUse) ↔
      count ≤ 4294967296 ∧
        ∀ label ∈ code.labelsInUse, label.id.toNat + count ≤ 4294967295) := by
  intro slots labels
  constructor
  · rw [show slots = _ from SlotPool.handOut_eq _ types]
    exact Slot.counts.fresh_iterate_iff _ _ (behind_firstFreeLocal method code)
  · rw [show labels = _ from LabelPool.handOut_eq _ count]
    exact Label.counts.fresh_iterate_iff _ _ (behind_firstFreeLabel code)

/-- With the greatest slot and the greatest label in use, the first ones that are handed out are in
use, though all others are free. -/
theorem forBody_not_fresh :
    let method : Method := ⟨.object, "Next", ⟨.plain, [], .void⟩, []⟩
    let code : Code := [⟨.ldloc, .localSlot 65535, [⟨4294967295⟩], []⟩]
    (¬(0 : Slot).InUse method code ∧
      ∃ slot ∈ LocalAllocator.handOut (forBody method code).locals [none],
        slot.InUse method code) ∧
    (⟨0⟩ : Label) ∉ code.labelsInUse ∧
      ∃ label ∈ LabelAllocator.handOut (forBody method code).labels 1,
        label ∈ code.labelsInUse := by
  decide

end Scope

end CilEdit
