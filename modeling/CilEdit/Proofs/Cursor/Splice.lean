import CilEdit.Proofs.Cursor.Jumps

/-! Splicing a fragment into code: the two insertions at the cursor and the replacement of the current
instruction. All three put the fragment in the place of no instruction or of one. When no label stands
both in the code and in the fragment, closed parts give closed code, every jump of the fragment leads
to the place that its destination has in the fragment, counted from where the fragment starts, and
every jump of the code follows its destination. A jump to the replaced instruction leads to the first
instruction of the fragment. -/

namespace CilEdit

namespace Code

/-- Puts a fragment in the place of `taken` instructions from `index` on. Their labels and markers go
to the first instruction of the fragment. -/
def splice (code : Code) (index taken : Nat) (fragment : Code) : Code :=
  let old : Code := (code.drop index).take taken
  code.take index ++ fragment.bequeathFirst old.labels old.markers ++ code.drop (index + taken)

theorem take_append_take_append_drop (code : Code) (index taken : Nat) :
    code.take index ++ (code.drop index).take taken ++ code.drop (index + taken) = code := by
  rw [List.append_assoc, ← List.drop_drop, List.take_append_drop, List.take_append_drop]

theorem mem_targets_of_getElem? {code : Code} {index : Nat} {instruction : Instruction}
    (h : code[index]? = some instruction) {label : Label} (hlabel : label ∈ instruction.targets) :
    label ∈ code.targets :=
  List.mem_flatMap.mpr ⟨instruction, List.mem_of_getElem? h, hlabel⟩

section Splice

variable {code fragment : Code} {index taken : Nat}

section Attached

variable {α : Type} {attached : Instruction → List α} (h : Instruction.HandsOn attached)

include h in
/-- What is attached to replaced instructions goes in front of what the fragment brings. -/
theorem flatMap_splice (hheir : taken = 0 ∨ fragment ≠ []) :
    (code.splice index taken fragment).flatMap attached =
      (code.take index).flatMap attached ++
        (((code.drop index).take taken).flatMap attached ++ fragment.flatMap attached) ++
        (code.drop (index + taken)).flatMap attached := by
  simp only [splice]
  rw [List.flatMap_append, List.flatMap_append]
  rcases hheir with rfl | hne
  · rw [List.take_zero, show Code.labels [] = [] from rfl, show Code.markers [] = [] from rfl,
      bequeathFirst_nil, List.flatMap_nil, List.nil_append]
  · rw [flatMap_bequeathFirst h _ hne]

include h in
/-- Nothing that is attached is lost or doubled, and what the fragment brings is added. -/
theorem perm_splice (hheir : taken = 0 ∨ fragment ≠ []) :
    ((code.splice index taken fragment).flatMap attached).Perm
      (code.flatMap attached ++ fragment.flatMap attached) := by
  have hparts := take_append_take_append_drop code index taken
  rw [flatMap_splice h hheir, ← congrArg (List.flatMap attached) hparts, List.flatMap_append,
    List.flatMap_append]
  simp only [List.append_assoc]
  exact (List.perm_append_comm.append_left _).append_left _

end Attached

/-- Code stays closed if it would be closed together with the fragment. -/
theorem closed_splice (hboth : Closed (code ++ fragment)) (hheir : taken = 0 ∨ fragment ≠ []) :
    (code.splice index taken fragment).Closed := by
  have hlabels : (code.splice index taken fragment).labels.Perm _ :=
    perm_splice Instruction.handsOn_labels hheir
  rw [← List.flatMap_append] at hlabels
  apply hboth.of_perm hlabels
  intro label hlabel
  simp only [splice] at hlabel
  rw [targets_append, targets_append, targets_bequeathFirst] at hlabel
  rw [targets_append]
  simp only [List.mem_append] at hlabel ⊢
  rcases hlabel with (hlabel | hlabel) | hlabel
  · exact Or.inl (mem_flatMap_of_mem_take hlabel)
  · exact Or.inr hlabel
  · exact Or.inl (mem_flatMap_of_mem_drop hlabel)

theorem destination?_splice_of_not_mem (hfit : index + taken ≤ code.length) (htaken : taken ≤ 1)
    (hheir : taken = 0 ∨ fragment ≠ []) {label : Label} (hlabel : label ∉ fragment.labels) :
    (code.splice index taken fragment).destination? label =
      (code.destination? label).map (shift index taken fragment.length) := by
  let old : Code := (code.drop index).take taken
  have hold : old.length = taken :=
    List.length_take_of_le (by rw [List.length_drop]; omega)
  have hleft : (code.take index).length = index := List.length_take_of_le (by omega)
  have hagree : (fragment.bequeathFirst old.labels old.markers).destination? label =
      old.destination? label := by
    by_cases hmem : label ∈ old.labels
    · have hne : fragment ≠ [] := by
        rcases hheir with rfl | hne
        · cases hmem
        · exact hne
      rw [destination?_bequeathFirst_of_mem hne hmem]
      cases hindex : old.destination? label with
      | none => exact absurd hmem (destination?_eq_none_iff.mp hindex)
      | some first =>
          have hlt := destination?_lt hindex
          rw [show first = 0 by omega]
    · rw [destination?_bequeathFirst_of_not_mem hmem, destination?_eq_none_iff.mpr hlabel,
        destination?_eq_none_iff.mpr hmem]
  have hexchange := destination?_exchange hagree (code.take index) (code.drop (index + taken))
  rwa [take_append_take_append_drop, hleft, hold, length_bequeathFirst] at hexchange

theorem destination?_splice_of_mem (hfit : index + taken ≤ code.length) {label : Label}
    (hcode : label ∉ code.labels) (hlabel : label ∈ fragment.labels) :
    (code.splice index taken fragment).destination? label =
      (fragment.destination? label).map (index + ·) := by
  have hleft : (code.take index).length = index := List.length_take_of_le (by omega)
  have hold : label ∉ Code.labels ((code.drop index).take taken) := fun hmem =>
    hcode (mem_flatMap_of_mem_drop (mem_flatMap_of_mem_take hmem))
  have hput := destination?_bequeathFirst_of_not_mem hold fragment
    (Code.markers ((code.drop index).take taken))
  have hmem := destination?_isSome_iff.mpr hlabel
  rw [← hput] at hmem ⊢
  simp only [splice]
  rw [destination?_of_mem_new (fun htaken => hcode (mem_flatMap_of_mem_take htaken))
    (destination?_isSome_iff.mp hmem), hleft]

/-- The instructions that are left stay as they are. -/
theorem getElem?_splice_of_kept (hfit : index + taken ≤ code.length) {place : Nat}
    (hplace : place < index ∨ index + taken ≤ place) :
    (code.splice index taken fragment)[shift index taken fragment.length place]? =
      code[place]? := by
  let old : Code := (code.drop index).take taken
  have hold : old.length = taken :=
    List.length_take_of_le (by rw [List.length_drop]; omega)
  have hleft : (code.take index).length = index := List.length_take_of_le (by omega)
  have hexchange := getElem?_exchange (code.take index) old (by rwa [hold, hleft])
    (fragment.bequeathFirst old.labels old.markers) (code.drop (index + taken))
  rwa [take_append_take_append_drop, hleft, hold, length_bequeathFirst] at hexchange

/-- The instructions of the fragment stand from `index` on, the first one with more labels and
markers in front if it replaces others. -/
theorem exists_getElem?_splice (hfit : index + taken ≤ code.length) {place : Nat}
    {instruction : Instruction} (h : fragment[place]? = some instruction) :
    ∃ labels markers, (code.splice index taken fragment)[index + place]? =
      some (instruction.inherit labels markers) := by
  let old : Code := (code.drop index).take taken
  have hleft : (code.take index).length = index := List.length_take_of_le (by omega)
  have hlt : place < (fragment.bequeathFirst old.labels old.markers).length := by
    rw [length_bequeathFirst]
    exact (List.getElem?_eq_some_iff.mp h).1
  have hplace : (code.splice index taken fragment)[index + place]? =
      (fragment.bequeathFirst old.labels old.markers)[place]? := by
    simp only [splice]
    rw [List.append_assoc, List.getElem?_append_right (by omega), hleft, Nat.add_sub_cancel_left,
      List.getElem?_append_left hlt]
  rw [hplace]
  cases fragment with
  | nil => cases h
  | cons heir rest =>
      cases place with
      | zero =>
          cases h
          exact ⟨old.labels, old.markers, rfl⟩
      | succ place => exact ⟨[], [], h⟩

theorem jumps_splice_of_kept (hcode : code.Closed)
    (hdisjoint : ∀ label ∈ code.labels, label ∉ fragment.labels)
    (hfit : index + taken ≤ code.length) (htaken : taken ≤ 1) (hheir : taken = 0 ∨ fragment ≠ [])
    {place : Nat} (hplace : place < index ∨ index + taken ≤ place) :
    (code.splice index taken fragment).jumps (shift index taken fragment.length place) =
      (code.jumps place).map (Option.map (shift index taken fragment.length)) := by
  unfold jumps
  rw [getElem?_splice_of_kept hfit hplace]
  cases hget : code[place]? with
  | none => rfl
  | some instruction =>
      simp only [List.map_map]
      apply List.map_congr_left
      intro label hlabel
      have hattached := hcode.attached label (mem_targets_of_getElem? hget hlabel)
      exact destination?_splice_of_not_mem hfit htaken hheir (hdisjoint label hattached)

theorem jumps_splice_of_fragment (hfragment : fragment.Closed)
    (hdisjoint : ∀ label ∈ code.labels, label ∉ fragment.labels)
    (hfit : index + taken ≤ code.length) {place : Nat} (hplace : place < fragment.length) :
    (code.splice index taken fragment).jumps (index + place) =
      (fragment.jumps place).map (Option.map (index + ·)) := by
  have hget := List.getElem?_eq_getElem hplace
  obtain ⟨labels, markers, hsplice⟩ := exists_getElem?_splice hfit hget
  unfold jumps
  rw [hsplice, hget]
  simp only [List.map_map]
  apply List.map_congr_left
  intro label hlabel
  have hattached := hfragment.attached label (mem_targets_of_getElem? hget hlabel)
  exact destination?_splice_of_mem hfit (fun hmem => hdisjoint label hmem hattached) hattached

end Splice

end Code

theorem Cursor.lt_of_index?_eq_some {cursor : Cursor} {index : Nat}
    (h : cursor.index? = some index) : index < cursor.code.length := by
  unfold Cursor.index? at h
  split at h
  · rename_i hvalid
    cases h
    have hlt : cursor.position < cursor.code.length := hvalid.2
    omega
  · cases h

/-- The edits that put a fragment at the current instruction. -/
inductive Splice where
  | insertBefore
  | insertInPlace
  | replace
  deriving DecidableEq

namespace Splice

/-- Runs the edit. -/
def perform : Splice → Cursor → Code → Cursor
  | insertBefore => Cursor.insertBefore
  | insertInPlace => Cursor.insertInPlace
  | replace => Cursor.replace

/-- The number of instructions whose place the fragment takes. -/
def taken : Splice → Nat
  | insertBefore | insertInPlace => 0
  | replace => 1

theorem taken_le (edit : Splice) : edit.taken ≤ 1 := by cases edit <;> decide

theorem perform_eq {cursor : Cursor} {index : Nat} (h : cursor.index? = some index)
    {edit : Splice} {fragment : Code} (hheir : edit.taken = 0 ∨ fragment ≠ []) :
    (edit.perform cursor fragment).code = cursor.code.splice index edit.taken fragment := by
  cases edit with
  | insertBefore =>
      simp only [perform, Cursor.insertBefore, h, Code.insertAt, Code.splice, taken,
        List.take_zero, Nat.add_zero]
      rw [show Code.labels [] = [] from rfl, show Code.markers [] = [] from rfl,
        Code.bequeathFirst_nil]
  | insertInPlace =>
      simp only [perform, Cursor.insertInPlace, h, Code.insertAt, Code.splice, taken,
        List.take_zero, Nat.add_zero]
      rw [show Code.labels [] = [] from rfl, show Code.markers [] = [] from rfl,
        Code.bequeathFirst_nil]
  | replace =>
      cases fragment with
      | nil => exact absurd hheir (by decide)
      | cons heir rest =>
          simp only [perform, Cursor.replace, h]
          rfl

/-- To replace an instruction by nothing is to remove it. -/
theorem perform_replace_nil {cursor : Cursor} {index : Nat} (h : cursor.index? = some index) :
    (replace.perform cursor []).code = cursor.code.removeAt index 1 := by
  simp only [perform, Cursor.replace, Cursor.remove, h]

end Splice

end CilEdit
