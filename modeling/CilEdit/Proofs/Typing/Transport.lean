import CilEdit.Proofs.Stack.Map
import CilEdit.Proofs.Typing.Search

/-! When the type of a pushed value is the same at another place. The recursion asks three things of a
place: where the type comes from, which producer stands at a depth and which store into a local
variable is the nearest. If a move of places carries the answers along, then the recursion takes the
same way from the moved place and comes to the same type. The local variables may have other slots
there and failures may be told differently. -/

namespace CilEdit

namespace TypeSource

/-- The source with its local variable mapped. -/
def mapSlot (f : Slot → Slot) : TypeSource → TypeSource
  | .slot own => .slot (f own)
  | .slotAddress own => .slotAddress (f own)
  | source => source

theorem mapSlot_id (source : TypeSource) : source.mapSlot id = source := by
  cases source <;> rfl

/-- Whether the type comes from the local variable. -/
def ReadsSlot (source : TypeSource) (slot : Slot) : Prop :=
  source = .slot slot ∨ source = .slotAddress slot

theorem mapSlot_of_not_readsSlot {f : Slot → Slot} {source : TypeSource}
    (h : ∀ slot, ¬source.ReadsSlot slot) : source.mapSlot f = source := by
  cases source with
  | slot own => exact absurd (.inl rfl) (h own)
  | slotAddress own => exact absurd (.inr rfl) (h own)
  | _ => rfl

end TypeSource

/-- Only an access to a local variable takes its type from one. -/
theorem Instruction.localSlot?_of_readsSlot {instruction : Instruction} {method : Method}
    {slot : Slot} (h : (instruction.typeSource method).ReadsSlot slot) :
    instruction.localSlot? = some slot := by
  have hsource : ∀ source : Slot → TypeSource,
      instruction.localSource source = .slot slot ∨
        instruction.localSource source = .slotAddress slot →
      (source = .slot ∨ source = .slotAddress) → instruction.localSlot? = some slot := by
    intro source hslot hkind
    unfold localSource at hslot
    cases hlocal : instruction.localSlot? with
    | none => rw [hlocal] at hslot; simp at hslot
    | some own =>
        rw [hlocal] at hslot
        rcases hkind with rfl | rfl <;> simpa using hslot
  unfold TypeSource.ReadsSlot typeSource at h
  split at h
  · simp at h
  · simp only at h
    split at h <;> first | exact hsource _ h (by simp) | simp at h

/-- Of the method only the arguments count. -/
theorem Instruction.typeSource_congr {method other : Method}
    (h : other.argumentType? = method.argumentType?) (instruction : Instruction) :
    instruction.typeSource other = instruction.typeSource method := by
  unfold typeSource
  rw [h]

namespace Code

theorem path_subset_of_site? {code : Code} {index : Nat} {site : Site}
    (h : code.site? index = some site) : site.path ⊆ code := by
  obtain ⟨instruction, hget, rfl⟩ := Option.map_eq_some_iff.mp h
  intro other hmem
  rcases List.mem_cons.mp hmem with rfl | hearlier
  · exact List.mem_of_getElem? hget
  · exact List.mem_of_mem_take (List.mem_reverse.mp hearlier)

end Code

/-- Whether the move carries the answers to the questions of the recursion along, for all places that
are covered. -/
structure Transport (method other : Method) (move : Site → Site) (f : Slot → Slot)
    (tell : Unsupported → Unsupported) (Covered : Site → Prop) : Prop where
  covered : ∀ site earlier, Covered site → site.earlier.Passes earlier → Covered earlier
  typeSource : ∀ site, Covered site → (move site).instruction.typeSource other =
    (site.instruction.typeSource method).mapSlot f
  producer? : ∀ site above, Covered site → (move site).earlier.producer? above =
    ((site.earlier.producer? above).map (Option.map move)).mapError tell
  lastStore? : ∀ site slot, Covered site →
    (site.instruction.typeSource method).ReadsSlot slot →
    (move site).earlier.lastStore? (f slot) = (site.earlier.lastStore? slot).map move
  localType? : ∀ site slot, Covered site →
    (site.instruction.typeSource method).ReadsSlot slot →
    other.localType? (f slot) = method.localType? slot

namespace Transport

variable {method other : Method} {move : Site → Site} {f : Slot → Slot}
  {tell : Unsupported → Unsupported} {Covered : Site → Prop}

theorem through (h : Transport method other move f tell Covered) (site : Site)
    (hsite : Covered site) (above : Nat)
    (hproducer : ∀ producer, site.earlier.producer? above = .ok (some producer) →
      (move producer).pushedType other = (producer.pushedType method).mapError tell) :
    ((move site).earlier.through above fun producer _ => producer.pushedType other) =
      (site.earlier.through above fun producer _ => producer.pushedType method).mapError tell := by
  rw [Trail.through_eq, Trail.through_eq, h.producer? site above hsite]
  cases hfound : site.earlier.producer? above with
  | error failure => rfl
  | ok found =>
      cases found with
      | none => rfl
      | some producer => exact hproducer producer hfound

theorem throughStore (h : Transport method other move f tell Covered) {site : Site}
    (hsite : Covered site) {slot : Slot}
    (hslot : (site.instruction.typeSource method).ReadsSlot slot)
    (hproducer : ∀ producer, site.earlier.Passes producer →
      (move producer).pushedType other = (producer.pushedType method).mapError tell) :
    ((move site).earlier.throughStore other (f slot) fun producer _ => producer.pushedType other) =
      (site.earlier.throughStore method slot fun producer _ =>
        producer.pushedType method).mapError tell := by
  rw [Trail.throughStore_eq, Trail.throughStore_eq, h.lastStore? site slot hsite hslot,
    h.localType? site slot hsite hslot]
  cases hlast : site.earlier.lastStore? slot with
  | none => rfl
  | some store =>
      have hpasses := Trail.passes_of_lastStore? hlast
      have hstored := h.through store (h.covered site store hsite hpasses) 0 fun producer hfound =>
        hproducer producer ((Trail.passes_of_producer? hfound).trans hpasses.earlier)
      simp only [Option.map_some, hstored]
      cases store.earlier.through 0 fun producer _ => producer.pushedType method <;> rfl

/-- A covered place pushes a value of the same type after the move. The induction is on the index, since
producers and the producers of stored values stand before the instruction. -/
theorem pushedType (h : Transport method other move f tell Covered) {site : Site}
    (hsite : Covered site) :
    (move site).pushedType other = (site.pushedType method).mapError tell := by
  induction hindex : site.index using Nat.strongRecOn generalizing site with
  | ind index ih =>
      have hearlier : ∀ producer, site.earlier.Passes producer →
          (move producer).pushedType other = (producer.pushedType method).mapError tell := by
        intro producer hpasses
        have hlt : producer.index < index := by
          rw [← hindex, Site.index, Site.index, producer.earlier.length_eq, site.earlier.length_eq]
          exact hpasses.length_le
        exact ih producer.index hlt (h.covered site producer hsite hpasses) rfl
      have hthrough := fun above => h.through site hsite above fun producer hfound =>
        hearlier producer (Trail.passes_of_producer? hfound)
      rw [Site.pushedType, Site.pushedType, h.typeSource site hsite]
      cases hsource : site.instruction.typeSource method with
      | known type => rfl
      | top => exact hthrough 0
      | operands =>
          simp only [TypeSource.mapSlot, hthrough]
          cases site.earlier.through 1 fun producer _ => producer.pushedType method with
          | error failure => rfl
          | ok first => cases first <;> rfl
      | element =>
          simp only [TypeSource.mapSlot, hthrough]
          cases site.earlier.through 1 fun producer _ => producer.pushedType method <;> rfl
      | slot slot => exact h.throughStore hsite (.inl hsource) hearlier
      | slotAddress slot =>
          simp only [TypeSource.mapSlot, h.throughStore hsite (.inr hsource) hearlier]
          cases site.earlier.throughStore method slot fun producer _ =>
            producer.pushedType method <;> rfl

/-- An instruction of some code pushes a value of the same type where it is moved to. -/
theorem pushedType_code (h : Transport method other move f tell Covered) {code changed : Code}
    {index place : Nat} (hplace : changed.site? place = (code.site? index).map move)
    (hcovered : ∀ site, code.site? index = some site → Covered site) :
    changed.pushedType other place = (code.pushedType method index).mapError tell := by
  rw [Code.pushedType, Code.pushedType, hplace]
  cases hsite : code.site? index with
  | none => rfl
  | some site =>
      simp only [Option.map_some, Typing.resolve_eq_pushedType]
      exact h.pushedType (hcovered site hsite)

end Transport

/-! ### What is attached to instructions -/

namespace Instruction

/-- The instruction with nothing attached to it. -/
def detached (instruction : Instruction) : Instruction := make instruction.opcode instruction.operand

theorem stackEffect_detached (instruction : Instruction) :
    instruction.detached.stackEffect = instruction.stackEffect := rfl

theorem typeSource_detached (instruction : Instruction) (method : Method) :
    instruction.detached.typeSource method = instruction.typeSource method := rfl

theorem storesTo_detached (instruction : Instruction) (slot : Slot) :
    instruction.detached.storesTo slot = instruction.storesTo slot := rfl

end Instruction

open Instruction in
/-- Changes of what is attached carry the search for types along, also into a method that types
arguments and local variables alike. -/
theorem transport_map {method other : Method} {change : Instruction → Instruction}
    (hchange : ∀ instruction, (change instruction).detached = instruction.detached)
    (harguments : other.argumentType? = method.argumentType?)
    (hlocals : other.localType? = method.localType?) :
    Transport method other (Site.map change) id id fun _ => True where
  covered _ _ _ _ := trivial
  typeSource site _ := by
    rw [TypeSource.mapSlot_id, ← typeSource_congr harguments, ← typeSource_detached, Site.map,
      hchange, typeSource_detached]
  producer? site above _ := by
    refine Trail.producer?_map (fun instruction => ?_) site.earlier above
    rw [mapError_id, ← stackEffect_detached, hchange, stackEffect_detached]
  lastStore? site slot _ _ := by
    refine Trail.lastStore?_map fun store _ => ?_
    rw [id, ← storesTo_detached, hchange, storesTo_detached]
  localType? _ slot _ _ := congrFun hlocals slot

end CilEdit
