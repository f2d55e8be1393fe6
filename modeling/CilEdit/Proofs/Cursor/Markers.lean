import CilEdit.Proofs.Cursor.Splice

/-! The order of exception region markers. Markers open and close regions, so their order along the
code matters. An insertion puts the markers of the fragment where the cursor is, and a replacement
puts them behind those of the replaced instruction. A removal keeps the sequence of markers if an
instruction is left behind the removed ones. If the last instructions are removed, their markers go in
front of those of the instruction before them, so there the sequence is kept just when the two parts
can be exchanged. -/

namespace CilEdit.Cursor

variable {cursor : Cursor} {index : Nat}

theorem markers_insert (h : cursor.index? = some index) (edit : Splice) (hedit : edit.taken = 0)
    (fragment : Code) :
    (edit.perform cursor fragment).code.markers =
      Code.markers (cursor.code.take index) ++ fragment.markers ++
        Code.markers (cursor.code.drop index) := by
  rw [Splice.perform_eq h (.inl hedit), hedit]
  exact Code.flatMap_splice Instruction.handsOn_markers (.inl rfl)

theorem markers_replace (h : cursor.index? = some index) {current : Instruction}
    (hcurrent : cursor.code[index]? = some current) {fragment : Code} (hfragment : fragment ≠ []) :
    (cursor.replace fragment).code.markers =
      Code.markers (cursor.code.take index) ++ (current.markers ++ fragment.markers) ++
        Code.markers (cursor.code.drop (index + 1)) := by
  have hcode : cursor.code.drop index = current :: cursor.code.drop (index + 1) := by
    obtain ⟨hlt, rfl⟩ := List.getElem?_eq_some_iff.mp hcurrent
    exact List.drop_eq_getElem_cons hlt
  have hmarkers : (cursor.code.splice index 1 fragment).markers = _ :=
    Code.flatMap_splice Instruction.handsOn_markers (.inr hfragment)
  rw [hcode, List.take_succ_cons, List.take_zero, List.flatMap_singleton] at hmarkers
  rw [show cursor.replace fragment = Splice.replace.perform cursor fragment from rfl,
    Splice.perform_eq h (.inr hfragment)]
  exact hmarkers

theorem markers_remove (h : cursor.index? = some index) {count : Nat}
    (hcount : index + count < cursor.code.length) :
    (cursor.remove count).code.markers = cursor.code.markers := by
  simp only [remove, h]
  exact Code.flatMap_removeAt_of_lt Instruction.handsOn_markers hcount

theorem markers_remove_last {previous : Nat} (h : cursor.index? = some (previous + 1))
    {heir : Instruction} (hheir : cursor.code[previous]? = some heir) {count : Nat}
    (hcount : cursor.code.length ≤ previous + 1 + count) :
    (cursor.remove count).code.markers =
      Code.markers (cursor.code.take previous) ++
        (Code.markers (cursor.code.drop (previous + 1)) ++ heir.markers) := by
  simp only [remove, h]
  exact Code.flatMap_removeAt_of_le Instruction.handsOn_markers hheir hcount

/-- What becomes of the sequence of markers in an edit that leaves an instruction. Insertions and
replacements add the markers of the fragment in their place and move no others. A removal keeps the
sequence if an instruction is left behind the removed ones; otherwise it puts their markers in front
of those of the instruction before them, which keeps the sequence just when the order of the two
parts does not matter. -/
theorem markers_edit (h : cursor.index? = some index) :
    let left := Code.markers (cursor.code.take index)
    let right := Code.markers (cursor.code.drop index)
    (∀ fragment : Code,
      (cursor.insertBefore fragment).code.markers = left ++ fragment.markers ++ right ∧
      (cursor.insertInPlace fragment).code.markers = left ++ fragment.markers ++ right) ∧
    (∀ (current : Instruction) (fragment : Code), cursor.current? = some current → fragment ≠ [] →
      (cursor.replace fragment).code.markers =
        left ++ (current.markers ++ fragment.markers) ++
          Code.markers (cursor.code.drop (index + 1))) ∧
    (∀ count, index + count < cursor.code.length →
      (cursor.remove count).code.markers = cursor.code.markers) ∧
    ∀ count previous heir, index = previous + 1 → cursor.code[previous]? = some heir →
      cursor.code.length ≤ index + count →
      (cursor.remove count).code.markers =
        Code.markers (cursor.code.take previous) ++ (right ++ heir.markers) ∧
      ((cursor.remove count).code.markers = cursor.code.markers ↔
        right ++ heir.markers = heir.markers ++ right) := by
  intro left right
  refine ⟨fun fragment => ⟨?_, ?_⟩, ?_, fun count hcount => markers_remove h hcount, ?_⟩
  · exact markers_insert h .insertBefore rfl fragment
  · exact markers_insert h .insertInPlace rfl fragment
  · intro current fragment hcurrent hfragment
    rw [current?, h] at hcurrent
    exact markers_replace h hcurrent hfragment
  · rintro count previous heir rfl hheir hcount
    have hremove := markers_remove_last h hheir hcount
    have hcode : cursor.code.markers =
        Code.markers (cursor.code.take previous) ++ (heir.markers ++ right) := by
      exact Code.flatMap_eq_of_getElem? hheir
    refine ⟨hremove, ?_⟩
    rw [hremove, hcode]
    exact List.append_right_inj _

/-- Two instructions in a region that a third one closes. -/
theorem markers_edit_region :
    let opening : Instruction := ⟨.nop, .none, [], [⟨.beginTry, none⟩]⟩
    let closing : Instruction := ⟨.nop, .none, [], [⟨.endRegion, none⟩]⟩
    let cursor : Cursor := ⟨[opening, .make .pop, closing], 1, none⟩
    cursor.index? = some 1 ∧
      (cursor.remove 1).code.markers = [⟨.beginTry, none⟩, ⟨.endRegion, none⟩] ∧
      (cursor.remove 2).code.markers = [⟨.endRegion, none⟩, ⟨.beginTry, none⟩] ∧
      (cursor.insertBefore [closing, opening]).code.markers =
        [⟨.beginTry, none⟩, ⟨.endRegion, none⟩, ⟨.beginTry, none⟩, ⟨.endRegion, none⟩] := by
  intro opening closing cursor
  have hindex : cursor.index? = some 1 := by decide
  obtain ⟨hinsert, -, hremove, hlast⟩ := markers_edit hindex
  exact ⟨hindex, hremove 1 (by decide), (hlast 2 0 opening rfl rfl (by decide)).1,
    (hinsert [closing, opening]).1⟩

/-- Removing the last instruction moves the end of a region in front of its beginning. -/
theorem markers_remove_ne :
    let code : Code :=
      [⟨.nop, .none, [], [⟨.beginTry, none⟩]⟩, ⟨.ret, .none, [], [⟨.endRegion, none⟩]⟩]
    let cursor : Cursor := ⟨code, 1, none⟩
    cursor.index? = some 1 ∧ (cursor.remove 1).length = 1 ∧
      (cursor.remove 1).code.markers ≠ cursor.code.markers := by
  decide

end CilEdit.Cursor
