import CilEdit.Proofs.Stack.Balanced
import CilEdit.Proofs.Typing.Transport

/-! Types in spliced code. The search for a type goes from an instruction to producers and to stores.
A balanced fragment hides no producer, and if it stores into no local variable that the code around it
accesses, it hides no store either. So every step of the search leads to the same instruction as
without the fragment, and every instruction around it pushes a value of the same type. -/

namespace CilEdit

/-- Whether the fragment stores into no local variable that the code accesses. -/
def Code.Spares (fragment code : Code) : Prop :=
  ∀ access ∈ code, ∀ slot ∈ access.localSlot?, ∀ store ∈ fragment, store.storesTo slot = false

instance (fragment code : Code) : Decidable (fragment.Spares code) :=
  decidable_of_iff
    (code.all fun access => access.localSlot?.all fun slot =>
      fragment.all fun store => !store.storesTo slot)
    (by simp [Code.Spares, Option.all_eq_true])

theorem Code.Spares.mono {fragment code part : Code} (h : fragment.Spares code)
    (hpart : part ⊆ code) : fragment.Spares part :=
  fun access hmem => h access (hpart hmem)

section Splice

variable {start : Nat} {fragment : Code} {method : Method}

theorem transport_splice (hbalanced : fragment.Balanced) (method : Method) :
    Transport method method (Site.splice start fragment) id id
      (fun site => fragment.Spares site.path) where
  covered site earlier hspares hpasses :=
    hspares.mono fun access hmem => List.mem_cons_of_mem _ (hpasses.subset hmem)
  typeSource site _ := (TypeSource.mapSlot_id _).symm
  producer? site above _ := by
    rw [Site.splice, Trail.producer?_splice hbalanced]
    cases site.earlier.producer? above <;> rfl
  lastStore? site slot hspares hslot :=
    Trail.lastStore?_splice
      (hspares _ List.mem_cons_self slot (Instruction.localSlot?_of_readsSlot hslot)) site.earlier
  localType? _ _ _ _ := rfl

end Splice

namespace Code

theorem pushedType_append {fragment left right : Code} (hbalanced : fragment.Balanced)
    (hspares : fragment.Spares (left ++ right)) (method : Method) (index : Nat) :
    pushedType (left ++ fragment ++ right) method (shift left.length 0 fragment.length index) =
      pushedType (left ++ right) method index := by
  rw [(transport_splice hbalanced method).pushedType_code (site?_append left fragment right index)
    fun site hsite => hspares.mono (path_subset_of_site? hsite)]
  cases pushedType (left ++ right) method index <;> rfl

/-- Balanced code in the middle of other code is not noticed from behind it. The walk back from
behind it finds the producer that it finds without it, at the index that this one has now, or fails
as it fails without it. If it stores into no local variable that the other code accesses, then every
instruction of the other code pushes a value of the same type, or its type is sought with the same
failure. -/
theorem answers_append_balanced {fragment : Code} (h : fragment.Balanced) (left right : Code) :
    (∀ count above,
      producer? (left ++ fragment ++ right) (left.length + fragment.length + count) above =
        (producer? (left ++ right) (left.length + count) above).map
          (Option.map (shift left.length 0 fragment.length))) ∧
    (fragment.Spares (left ++ right) → ∀ method index,
      pushedType (left ++ fragment ++ right) method (shift left.length 0 fragment.length index) =
        pushedType (left ++ right) method index) := by
  constructor
  · intro count above
    have hproducer := producer?_append h left right (left.length + count) above
    rwa [shift_of_le (Nat.le_add_right _ _), Nat.add_right_comm] at hproducer
  · intro hspares method index
    exact pushedType_append h hspares method index

/-- A store of one variable between the push of a value and its store into another. -/
theorem answers_append_store :
    let left : Code := [.loadLong 7]
    let fragment : Code := [.loadInt 1, .make .dup, .make .stloc1, .make .pop]
    let right : Code := [.make .stloc0, .make .ldloc0]
    let method : Method := ⟨.object, "Next", ⟨.plain, [], .void⟩, [.object]⟩
    fragment.Balanced ∧ fragment.Spares (left ++ right) ∧
      producer? (left ++ fragment ++ right) 5 0 = .ok (some 0) ∧
      pushedType (left ++ fragment ++ right) method 6 = pushedType (left ++ right) method 2 := by
  intro left fragment right method
  have hbalanced : fragment.Balanced := by decide
  have hspares : fragment.Spares (left ++ right) := by decide
  obtain ⟨hproducer, htype⟩ := answers_append_balanced hbalanced left right
  exact ⟨hbalanced, hspares, hproducer 0 0, htype hspares method 2⟩

end Code

end CilEdit
