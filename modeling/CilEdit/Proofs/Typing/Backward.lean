import CilEdit.Proofs.Cursor.Places
import CilEdit.Proofs.Typing.Transport

/-! What the type of a pushed value depends on. The search goes back from the instruction that pushes
the value, and on its way it reads opcodes and operands only, beside the types of arguments and of
declared local variables. So nothing behind the instruction has a say in it, nor has anything that is
attached to an instruction: two pieces of code that agree up to an index give the same answer there,
and no edit behind the index changes it. -/

namespace CilEdit

namespace Code

/-- Whether two pieces of code have the same opcodes and operands at all indices up to `index`. What is
attached to the instructions may differ, and so may all that stands behind. -/
def AgreeUpTo (first second : Code) (index : Nat) : Prop :=
  ∀ place ≤ index, first.bare[place]? = second.bare[place]?

variable {first second code result : Code} {index place : Nat}

/-! ### Code that agrees up to an index -/

theorem map_detached (code : Code) :
    code.map Instruction.detached = code.bare.map fun content => .make content.1 content.2 := by
  rw [bare, List.map_map]
  rfl

theorem AgreeUpTo.take_map_detached (h : first.AgreeUpTo second index) :
    (first.map Instruction.detached).take (index + 1) =
      (second.map Instruction.detached).take (index + 1) := by
  have hbare : first.bare.take (index + 1) = second.bare.take (index + 1) := by
    apply List.ext_getElem?
    intro place
    rw [List.getElem?_take, List.getElem?_take]
    split
    · rename_i hplace
      exact h place (Nat.le_of_lt_succ hplace)
    · rfl
  rw [map_detached, map_detached, ← List.map_take, ← List.map_take, hbare]

/-- A place is told by all that stands up to it. -/
theorem site?_congr (h : first.take (index + 1) = second.take (index + 1)) :
    first.site? index = second.site? index := by
  have hplace (code : Code) : code.site? index = site? (code.take (index + 1)) index := by
    rw [site?, site?, before, before, List.getElem?_take_of_lt (Nat.lt_succ_self index),
      List.take_take, Nat.min_eq_left (Nat.le_succ index)]
  rw [hplace first, hplace second, h]

theorem AgreeUpTo.pushedType_eq (h : first.AgreeUpTo second index) {method other : Method}
    (harguments : other.argumentType? = method.argumentType?)
    (hlocals : other.localType? = method.localType?) :
    first.pushedType method index = second.pushedType other index := by
  have hdetached (code : Code) (own : Method) (hown : other.argumentType? = own.argumentType?)
      (hownLocals : other.localType? = own.localType?) :
      pushedType (code.map Instruction.detached) other index = code.pushedType own index := by
    have htransport : Transport own other (Site.map Instruction.detached) id id fun _ => True :=
      transport_map (fun _ => rfl) hown hownLocals
    rw [htransport.pushedType_code (code.site?_map index) fun _ _ => trivial, mapError_id]
  calc first.pushedType method index
      = pushedType (first.map Instruction.detached) other index :=
        (hdetached first method harguments hlocals).symm
    _ = pushedType (second.map Instruction.detached) other index := by
        rw [pushedType, pushedType, site?_congr h.take_map_detached]
    _ = second.pushedType other index := hdetached second other rfl rfl

/-! ### Changes that keep the code up to an index -/

/-- Code that starts as other code does before a place agrees with it there. -/
theorem agreeUpTo_of_bare_eq_append {rest : List (Opcode × Operand)}
    (h : result.bare = Code.bare (code.take place) ++ rest) (hplace : place ≤ code.length)
    (hindex : index < place) : result.AgreeUpTo code index := by
  intro other hother
  have hlt : other < place := Nat.lt_of_le_of_lt hother hindex
  have hlength : (Code.bare (code.take place)).length = place := by
    rw [bare, List.length_map, List.length_take_of_le hplace]
  rw [h, List.getElem?_append_left (hlength.symm ▸ hlt), bare, bare, List.map_take,
    List.getElem?_take_of_lt hlt]

theorem agreeUpTo_modify (change : Instruction → Instruction) (hindex : index < place) :
    Code.AgreeUpTo (code.modify place change) code index := by
  intro other hother
  have hne : place ≠ other := Nat.ne_of_gt (Nat.lt_of_le_of_lt hother hindex)
  rw [bare, bare, List.getElem?_map, List.getElem?_map, List.getElem?_modify_ne _ _ hne]

/-- What is attached to the instructions does not count. -/
theorem agreeUpTo_mapIdx (labels : Nat → List Label) (markers : Nat → List Marker) :
    Code.AgreeUpTo (code.mapIdx fun place instruction =>
      { instruction with labels := labels place, markers := markers place }) code index := by
  intro other _
  rw [bare, bare, List.getElem?_map, List.getElem?_map, List.getElem?_mapIdx, Option.map_map]
  rfl

end Code

/-- An edit leaves the instructions before the current one as they are, but for what is attached to
them. -/
theorem Cursor.Edits.agreeUpTo {cursor : Cursor} {fragment result : Code} {index place : Nat}
    (h : cursor.Edits fragment result) (hplace : cursor.index? = some place)
    (hindex : index < place) : result.AgreeUpTo cursor.code index := by
  have hle := Nat.le_of_lt (lt_of_index?_eq_some hplace)
  cases h with
  | keep hfragment => exact fun _ _ => rfl
  | splice hown hheir =>
      cases hplace.symm.trans hown
      exact Code.agreeUpTo_of_bare_eq_append
        ((Code.bare_splice _ _ _ _).trans (List.append_assoc _ _ _)) hle hindex
  | remove hown hfragment =>
      cases hplace.symm.trans hown
      rw [Code.removeAt_eq_close hle]
      exact Code.agreeUpTo_of_bare_eq_append (Code.bare_close _ _ _) hle hindex

/-- The type of a pushed value is found by looking backward. Code that agrees up to an index answers
alike there, failures included, for methods that type all arguments and local variables alike. So no
edit at a later instruction changes the answer, and nothing that is attached anywhere does. -/
theorem Code.pushedType_looks_backward (index : Nat) :
    (∀ (first second : Code) (method other : Method), first.AgreeUpTo second index →
      (∀ slot, other.argumentType? slot = method.argumentType? slot) →
      (∀ slot, other.localType? slot = method.localType? slot) →
      first.pushedType method index = second.pushedType other index) ∧
    (∀ (cursor : Cursor) (place : Nat) (method : Method), cursor.index? = some place →
      index < place →
      (∀ (edit : Splice) (fragment : Code),
        (edit.perform cursor fragment).code.pushedType method index =
          cursor.code.pushedType method index) ∧
      (∀ count, (cursor.remove count).code.pushedType method index =
        cursor.code.pushedType method index) ∧
      ∀ change, (cursor.modifyCurrent change).code.pushedType method index =
        cursor.code.pushedType method index) ∧
    ∀ (code : Code) (labels : Nat → List Label) (markers : Nat → List Marker) (method : Method),
      Code.pushedType (code.mapIdx fun place instruction =>
        { instruction with labels := labels place, markers := markers place }) method index =
          code.pushedType method index := by
  refine ⟨?_, ?_, ?_⟩
  · intro first second method other hagree harguments hlocals
    exact hagree.pushedType_eq (funext harguments) (funext hlocals)
  · intro cursor place method hplace hindex
    refine ⟨fun edit fragment => ?_, fun count => ?_, fun change => ?_⟩
    · exact ((edit.edits_perform hplace fragment).agreeUpTo hplace hindex).pushedType_eq rfl rfl
    · exact ((cursor.edits_remove count).agreeUpTo hplace hindex).pushedType_eq rfl rfl
    · simp only [Cursor.modifyCurrent, hplace]
      exact (agreeUpTo_modify change hindex).pushedType_eq rfl rfl
  · intro code labels markers method
    exact (agreeUpTo_mapIdx labels markers).pushedType_eq rfl rfl

/-- A read of what was stored, with a bare call behind it, and the same with a label at its head and
nothing behind it in a method of another name. Removing the call changes nothing, either. -/
theorem Code.pushedType_looks_backward_bare_call :
    let first : Code := [.loadLong 5, .make .stloc0, .make .ldloc0, .make .call]
    let second : Code := [⟨.ldcI8, .immediate (.int64 5), [⟨3⟩], []⟩, .make .stloc0, .make .ldloc0]
    let method : Method := ⟨.object, "Next", ⟨.plain, [], .void⟩, [.object]⟩
    let other : Method := ⟨.object, "Reset", ⟨.plain, [], .int32⟩, [.object]⟩
    let cursor : Cursor := ⟨first, 3, none⟩
    first.AgreeUpTo second 2 ∧ cursor.index? = some 3 ∧
      first.pushedType method 2 = second.pushedType other 2 ∧
      (cursor.remove 1).code.pushedType method 2 = first.pushedType method 2 := by
  intro first second method other cursor
  have hagree : first.AgreeUpTo second 2 := by
    intro place hplace
    rcases place with _ | _ | _ | place
    · rfl
    · rfl
    · rfl
    · omega
  have hindex : cursor.index? = some 3 := by decide
  obtain ⟨htypes, hedits, -⟩ := Code.pushedType_looks_backward 2
  obtain ⟨-, hremove, -⟩ := hedits cursor 3 method hindex (by decide)
  exact ⟨hagree, hindex, htypes first second method other hagree (fun _ => rfl) (fun _ => rfl),
    hremove 1⟩

end CilEdit
