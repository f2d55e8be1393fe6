import CilEdit.Stack.Producer

/-! Producers and stores in code of which every instruction was mapped. A map that keeps the effect on
the stack keeps every producer in its place, and the walk back fails where it failed. A map of the
local variables beside it keeps every nearest store if it tells the stores apart as they were. -/

namespace CilEdit

theorem mapError_id {α ε : Type} (found : Except ε α) : found.mapError id = found := by
  cases found <;> rfl

variable {change : Instruction → Instruction} {tell : Unsupported → Unsupported}

/-- The trail with every instruction mapped. -/
def Trail.map (change : Instruction → Instruction) (trail : Trail) : Trail where
  instructions := trail.instructions.map change
  length := trail.length
  length_eq := by rw [List.length_map, trail.length_eq]

/-- The same place in code with every instruction mapped. -/
def Site.map (change : Instruction → Instruction) (site : Site) : Site :=
  ⟨change site.instruction, site.earlier.map change⟩

namespace Trail

theorem map_ofList (instructions : List Instruction) :
    (ofList instructions).map change = ofList (instructions.map change) :=
  Trail.ext rfl

/-- Where effects are kept the walk back finds the producer that it found, and failures are told as
`tell` says. -/
theorem producer?_map
    (heffect : ∀ instruction, (change instruction).stackEffect =
      instruction.stackEffect.mapError tell) (trail : Trail) (above : Nat) :
    (trail.map change).producer? above =
      ((trail.producer? above).map (Option.map (Site.map change))).mapError tell := by
  obtain ⟨instructions, rfl⟩ := exists_eq_ofList trail
  rw [map_ofList]
  induction instructions generalizing above with
  | nil => rfl
  | cons instruction earlier ih =>
      rw [List.map_cons, producer?_cons, producer?_cons, heffect]
      cases instruction.stackEffect with
      | error failure => rfl
      | ok effect =>
          have hok : (Except.ok effect).mapError tell = .ok effect := rfl
          simp only [hok]
          by_cases habove : above < effect.pushes
          · rw [if_pos habove, if_pos habove, ← map_ofList]
            rfl
          · rw [if_neg habove, if_neg habove]
            exact ih _

theorem lastStore?_map {trail : Trail} {slot target : Slot}
    (hstore : ∀ store ∈ trail.instructions, (change store).storesTo target = store.storesTo slot) :
    (trail.map change).lastStore? target = (trail.lastStore? slot).map (Site.map change) := by
  obtain ⟨instructions, rfl⟩ := exists_eq_ofList trail
  rw [map_ofList]
  induction instructions with
  | nil => rfl
  | cons instruction earlier ih =>
      obtain ⟨hfirst, hearlier⟩ := List.forall_mem_cons.mp hstore
      rw [List.map_cons, lastStore?_cons, lastStore?_cons, hfirst]
      by_cases hslot : instruction.storesTo slot
      · rw [if_pos hslot, if_pos hslot, ← map_ofList]
        rfl
      · rw [if_neg hslot, if_neg hslot]
        exact ih hearlier

end Trail

namespace Code

theorem before_map (code : Code) (index : Nat) :
    before (code.map change) index = (code.before index).map change := by
  rw [before, before, Trail.map_ofList, ← List.map_take, List.map_reverse]

theorem site?_map (code : Code) (index : Nat) :
    site? (code.map change) index = (code.site? index).map (Site.map change) := by
  rw [site?, site?, List.getElem?_map, before_map]
  cases code[index]? <;> rfl

theorem producer?_map
    (heffect : ∀ instruction, (change instruction).stackEffect =
      instruction.stackEffect.mapError tell) (code : Code) (index above : Nat) :
    producer? (code.map change) index above = (code.producer? index above).mapError tell := by
  rw [producer?, producer?, before_map, Trail.producer?_map heffect]
  cases (code.before index).producer? above with
  | error failure => rfl
  | ok found => cases found <;> rfl

end Code

end CilEdit
