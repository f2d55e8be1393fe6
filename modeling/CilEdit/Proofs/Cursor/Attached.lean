import CilEdit.Cursor.Edit

/-! What is attached to instructions, labels or exception region markers, read as one sequence along
the code. Both are handed on in the same way, so what is said here of one is true of the other. A
removal keeps all that is attached as long as an instruction is left, and it keeps the order if one
is left behind the removed ones. If the last instructions are removed, what they had goes in front
of what the instruction before them has. -/

namespace CilEdit

/-- Whether an heir gets the attachments of removed instructions in front of its own. -/
def Instruction.HandsOn {α : Type} (attached : Instruction → List α) : Prop :=
  ∀ (heir : Instruction) (removed : Code),
    attached (heir.inherit removed.labels removed.markers) =
      removed.flatMap attached ++ attached heir

theorem Instruction.handsOn_labels : HandsOn Instruction.labels := fun _ _ => rfl

theorem Instruction.handsOn_markers : HandsOn Instruction.markers := fun _ _ => rfl

namespace Code

section Parts

variable {α : Type} {attached : Instruction → List α} {code : Code} {count : Nat} {item : α}

theorem mem_flatMap_of_mem_take (h : item ∈ (code.take count).flatMap attached) :
    item ∈ code.flatMap attached := by
  obtain ⟨instruction, hmem, hitem⟩ := List.mem_flatMap.mp h
  exact List.mem_flatMap.mpr ⟨instruction, List.mem_of_mem_take hmem, hitem⟩

theorem mem_flatMap_of_mem_drop (h : item ∈ (code.drop count).flatMap attached) :
    item ∈ code.flatMap attached := by
  obtain ⟨instruction, hmem, hitem⟩ := List.mem_flatMap.mp h
  exact List.mem_flatMap.mpr ⟨instruction, List.mem_of_mem_drop hmem, hitem⟩

theorem flatMap_eq_of_getElem? {index : Nat} {instruction : Instruction}
    (h : code[index]? = some instruction) :
    code.flatMap attached = (code.take index).flatMap attached ++
      (attached instruction ++ (code.drop (index + 1)).flatMap attached) := by
  obtain ⟨hlt, rfl⟩ := List.getElem?_eq_some_iff.mp h
  rw [← List.flatMap_cons, ← List.drop_eq_getElem_cons hlt, ← List.flatMap_append,
    List.take_append_drop]

end Parts

section Bequeath

variable {α : Type} {attached : Instruction → List α} (h : Instruction.HandsOn attached)

include h in
theorem flatMap_bequeathFirst (removed : Code) {code : Code} (hcode : code ≠ []) :
    (code.bequeathFirst removed.labels removed.markers).flatMap attached =
      removed.flatMap attached ++ code.flatMap attached := by
  cases code with
  | nil => exact absurd rfl hcode
  | cons heir rest =>
      rw [bequeathFirst, List.flatMap_cons, List.flatMap_cons, h, List.append_assoc]

theorem bequeathLast_concat (labels : List Label) (markers : List Marker) (kept : Code)
    (heir : Instruction) :
    bequeathLast labels markers (kept ++ [heir]) = kept ++ [heir.inherit labels markers] := by
  induction kept with
  | nil => rfl
  | cons instruction kept ih =>
      have hne : kept ++ [heir] ≠ [] := List.append_ne_nil_of_right_ne_nil _ (List.cons_ne_nil _ _)
      rw [List.cons_append, bequeathLast, ih, List.cons_append]
      exact hne

include h in
theorem flatMap_bequeathLast (removed kept : Code) (heir : Instruction) :
    (bequeathLast removed.labels removed.markers (kept ++ [heir])).flatMap attached =
      kept.flatMap attached ++ (removed.flatMap attached ++ attached heir) := by
  rw [bequeathLast_concat, List.flatMap_append, List.flatMap_singleton, h]

end Bequeath

/-! ### Removal -/

theorem removeAt_of_lt {code : Code} {index count : Nat} (h : index + count < code.length) :
    code.removeAt index count =
      code.take index ++ bequeathFirst (Code.labels ((code.drop index).take count))
        (Code.markers ((code.drop index).take count)) (code.drop (index + count)) := by
  have hrest : (code.drop (index + count)).isEmpty = false := by
    rw [List.isEmpty_eq_false_iff, Ne, List.drop_eq_nil_iff]
    omega
  simp only [removeAt, hrest]
  rfl

theorem removeAt_of_le {code : Code} {index count : Nat} (h : code.length ≤ index + count) :
    code.removeAt index count =
      bequeathLast (Code.labels (code.drop index)) (Code.markers (code.drop index))
        (code.take index) := by
  have hremoved : (code.drop index).take count = code.drop index := by
    rw [List.take_of_length_le]
    rw [List.length_drop]
    omega
  simp only [removeAt, hremoved, List.drop_eq_nil_of_le h]
  rfl

/-- Only a removal of all instructions leaves none. -/
theorem removeAt_eq_nil_iff {code : Code} {index count : Nat} (h : index < code.length) :
    code.removeAt index count = [] ↔ index = 0 ∧ code.length ≤ count := by
  by_cases hlt : index + count < code.length
  · have hrest : code.drop (index + count) ≠ [] := by
      rw [Ne, List.drop_eq_nil_iff]
      omega
    obtain ⟨heir, rest, hcons⟩ := List.exists_cons_of_ne_nil hrest
    rw [removeAt_of_lt hlt, hcons, bequeathFirst]
    simp only [List.append_eq_nil_iff, List.cons_ne_nil, and_false, false_iff]
    omega
  · rw [removeAt_of_le (by omega)]
    cases index with
    | zero =>
        rw [List.take_zero]
        exact ⟨fun _ => ⟨rfl, by omega⟩, fun _ => rfl⟩
    | succ previous =>
        rw [List.take_succ_eq_append_getElem (by omega), bequeathLast_concat]
        simp

section Removal

variable {α : Type} {attached : Instruction → List α} (h : Instruction.HandsOn attached)
  {code : Code} {index count : Nat}

include h in
/-- What is attached stays in order if an instruction is left behind the removed ones. -/
theorem flatMap_removeAt_of_lt (hlt : index + count < code.length) :
    (code.removeAt index count).flatMap attached = code.flatMap attached := by
  have hrest : code.drop (index + count) ≠ [] := by
    rw [Ne, List.drop_eq_nil_iff]
    omega
  rw [removeAt_of_lt hlt, List.flatMap_append, flatMap_bequeathFirst h _ hrest,
    ← List.flatMap_append, ← List.flatMap_append, ← List.drop_drop, List.take_append_drop,
    List.take_append_drop]

include h in
/-- What the last instructions have goes in front of what the instruction before them has. -/
theorem flatMap_removeAt_of_le {previous : Nat} {heir : Instruction}
    (hheir : code[previous]? = some heir) (hle : code.length ≤ previous + 1 + count) :
    (code.removeAt (previous + 1) count).flatMap attached =
      (code.take previous).flatMap attached ++
        ((code.drop (previous + 1)).flatMap attached ++ attached heir) := by
  have htake : code.take (previous + 1) = code.take previous ++ [heir] := by
    rw [List.take_add_one, hheir, Option.toList_some]
  rw [removeAt_of_le hle, htake, flatMap_bequeathLast h]

include h in
/-- Nothing that is attached is lost or doubled as long as an instruction is left. -/
theorem perm_removeAt (hindex : index < code.length) (hleft : code.removeAt index count ≠ []) :
    ((code.removeAt index count).flatMap attached).Perm (code.flatMap attached) := by
  by_cases hlt : index + count < code.length
  · rw [flatMap_removeAt_of_lt h hlt]
  · rw [Ne, removeAt_eq_nil_iff hindex] at hleft
    obtain ⟨previous, rfl⟩ := Nat.exists_eq_add_one_of_ne_zero (n := index) (by omega)
    obtain ⟨heir, hheir⟩ : ∃ heir, code[previous]? = some heir :=
      ⟨_, List.getElem?_eq_getElem (by omega)⟩
    rw [flatMap_removeAt_of_le h hheir (by omega), flatMap_eq_of_getElem? hheir]
    exact List.perm_append_comm.append_left _

end Removal

end Code

end CilEdit
