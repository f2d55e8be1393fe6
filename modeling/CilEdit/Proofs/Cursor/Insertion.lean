import CilEdit.Proofs.Cursor.Removal

/-! Insertions in a row, and removals that take them back. Fragments that are inserted one after the
other stand in the code as one fragment: in the order in which they came when the cursor goes behind
each of them, in the opposite order when it stays in front. To remove as many instructions as were
inserted gives the code back, but for what the fragment had attached: that is handed to the instruction
in front of which it stood. -/

namespace CilEdit

namespace Code

theorem insertAt_append (left right fragment : Code) :
    insertAt (left ++ right) left.length fragment = left ++ fragment ++ right := by
  rw [insertAt, List.take_left, List.drop_left]

theorem bequeathFirst_eq_modifyHead (labels : List Label) (markers : List Marker) (code : Code) :
    code.bequeathFirst labels markers = code.modifyHead (·.inherit labels markers) := by
  cases code <;> rfl

variable {code : Code} {index : Nat}

theorem insertAt_insertAt_behind (h : index ≤ code.length) (first second : Code) :
    (code.insertAt index first).insertAt (index + first.length) second =
      code.insertAt index (first ++ second) := by
  have hleft : (code.take index ++ first).length = index + first.length := by
    rw [List.length_append, List.length_take_of_le h]
  calc
    (code.insertAt index first).insertAt (index + first.length) second =
        insertAt (code.take index ++ first ++ code.drop index) (code.take index ++ first).length
          second := by
      rw [hleft]
      rfl
    _ = code.take index ++ first ++ second ++ code.drop index := insertAt_append _ _ _
    _ = code.insertAt index (first ++ second) := by rw [insertAt, List.append_assoc _ first]

theorem insertAt_insertAt_inFront (h : index ≤ code.length) (first second : Code) :
    (code.insertAt index second).insertAt index first = code.insertAt index (first ++ second) := by
  have hleft := List.length_take_of_le h
  calc
    (code.insertAt index second).insertAt index first =
        insertAt (code.take index ++ (second ++ code.drop index)) (code.take index).length first := by
      rw [hleft, ← List.append_assoc]
      rfl
    _ = code.take index ++ first ++ (second ++ code.drop index) := insertAt_append _ _ _
    _ = code.insertAt index (first ++ second) := by simp only [insertAt, List.append_assoc]

/-- Removing what was inserted leaves its labels and markers with the instruction behind it. -/
theorem removeAt_insertAt (h : index < code.length) (fragment : Code) :
    (code.insertAt index fragment).removeAt index fragment.length =
      code.modify index (·.inherit fragment.labels fragment.markers) := by
  have hleft := List.length_take_of_le (Nat.le_of_lt h)
  have hright : code.drop index ≠ [] := by
    rw [Ne, List.drop_eq_nil_iff]
    omega
  calc
    (code.insertAt index fragment).removeAt index fragment.length =
        removeAt (code.take index ++ (fragment ++ code.drop index)) (code.take index).length
          fragment.length := by
      rw [hleft, insertAt, List.append_assoc]
    _ = close (code.take index) fragment (code.drop index) := by
      rw [removeAt_append, List.take_left, List.drop_left]
    _ = code.take index ++
        bequeathFirst fragment.labels fragment.markers (code.drop index) :=
      close_of_ne_nil _ _ hright
    _ = code.modify index (·.inherit fragment.labels fragment.markers) := by
      rw [bequeathFirst_eq_modifyHead, List.modify_eq_take_drop]

end Code

theorem Splice.index?_perform {cursor : Cursor} {index : Nat} (h : cursor.index? = some index)
    (edit : Splice) (hedit : edit.taken = 0) (fragment : Code) :
    (edit.perform cursor fragment).index? = some (edit.position index fragment) := by
  have hlt := (Cursor.index?_eq_some_iff.mp h).2
  have hlength : (edit.perform cursor fragment).length + edit.taken =
      cursor.length + fragment.length := length_perform h (.inl hedit)
  refine Cursor.index?_eq_some_iff.mpr ⟨edit.position_perform h fragment, ?_⟩
  cases edit <;> simp only [taken, position] at hedit hlength ⊢ <;> omega

namespace Cursor

variable {cursor : Cursor} {index : Nat}

theorem insertBefore_of_index?_eq_none (h : cursor.index? = none) (fragment : Code) :
    cursor.insertBefore fragment = cursor :=
  Splice.insertBefore.perform_of_index?_eq_none h fragment

theorem insertInPlace_of_index?_eq_none (h : cursor.index? = none) (fragment : Code) :
    cursor.insertInPlace fragment = cursor :=
  Splice.insertInPlace.perform_of_index?_eq_none h fragment

theorem insertBefore_eq (h : cursor.index? = some index) (fragment : Code) :
    cursor.insertBefore fragment =
      ⟨cursor.code.insertAt index fragment, index + fragment.length, cursor.lastMatch⟩ := by
  rw [insertBefore, h]

theorem insertInPlace_eq (h : cursor.index? = some index) (fragment : Code) :
    cursor.insertInPlace fragment = { cursor with code := cursor.code.insertAt index fragment } := by
  rw [insertInPlace, h]

/-! ### Insertions in a row -/

theorem insertBefore_insertBefore (cursor : Cursor) (first second : Code) :
    (cursor.insertBefore first).insertBefore second = cursor.insertBefore (first ++ second) := by
  cases hindex : cursor.index? with
  | none => simp only [insertBefore_of_index?_eq_none hindex]
  | some index =>
      have hle : index ≤ cursor.code.length := Nat.le_of_lt (lt_of_index?_eq_some hindex)
      have hnext : (cursor.insertBefore first).index? = some (index + first.length) :=
        Splice.index?_perform hindex .insertBefore rfl first
      rw [insertBefore_eq hnext, insertBefore_eq hindex, insertBefore_eq hindex, mk.injEq]
      refine ⟨Code.insertAt_insertAt_behind hle first second, ?_, rfl⟩
      rw [List.length_append, Int.natCast_add, Int.natCast_add, Int.add_assoc]

theorem insertInPlace_insertInPlace (cursor : Cursor) (first second : Code) :
    (cursor.insertInPlace second).insertInPlace first = cursor.insertInPlace (first ++ second) := by
  cases hindex : cursor.index? with
  | none => simp only [insertInPlace_of_index?_eq_none hindex]
  | some index =>
      have hle : index ≤ cursor.code.length := Nat.le_of_lt (lt_of_index?_eq_some hindex)
      have hnext : (cursor.insertInPlace second).index? = some index :=
        Splice.index?_perform hindex .insertInPlace rfl second
      rw [insertInPlace_eq hnext, insertInPlace_eq hindex, insertInPlace_eq hindex, mk.injEq]
      exact ⟨Code.insertAt_insertAt_inFront hle first second, rfl, rfl⟩

/-- Any number of fragments, each inserted behind the one before, are one fragment. -/
theorem foldl_insertBefore (cursor : Cursor) (first : Code) (fragments : List Code) :
    fragments.foldl insertBefore (cursor.insertBefore first) =
      cursor.insertBefore (first ++ fragments.flatten) := by
  induction fragments generalizing first with
  | nil => rw [List.flatten_nil, List.append_nil, List.foldl_nil]
  | cons second fragments ih =>
      rw [List.foldl_cons, insertBefore_insertBefore, ih, List.flatten_cons, List.append_assoc]

/-- Any number of fragments, each inserted in front of the one before, are one fragment. -/
theorem foldl_insertInPlace (cursor : Cursor) (last : Code) (fragments : List Code) :
    fragments.foldl insertInPlace (cursor.insertInPlace last) =
      cursor.insertInPlace (fragments.reverse.flatten ++ last) := by
  induction fragments generalizing last with
  | nil => rfl
  | cons first fragments ih =>
      rw [List.foldl_cons, insertInPlace_insertInPlace, ih, List.reverse_cons, List.flatten_append,
        List.flatten_singleton, List.append_assoc]

/-- To insert in place and then go behind the fragment is to insert before the cursor. -/
theorem insertInPlace_seekTo (h : cursor.isValid) (fragment : Code) :
    (cursor.insertInPlace fragment).seekTo (cursor.position + fragment.length) =
      cursor.insertBefore fragment := by
  obtain ⟨index, hindex⟩ := Option.isSome_iff_exists.mp h
  obtain ⟨hposition, hlt⟩ := index?_eq_some_iff.mp hindex
  have hheir : Splice.insertInPlace.taken = 0 ∨ fragment ≠ [] := .inl rfl
  have hlength : (cursor.insertInPlace fragment).length + 0 = cursor.length + fragment.length :=
    Splice.length_perform hindex hheir
  have hclamp : clamp (cursor.insertInPlace fragment).length (cursor.position + fragment.length) =
      index + fragment.length := by
    unfold clamp
    omega
  rw [seekTo, hclamp, insertInPlace_eq hindex, insertBefore_eq hindex]

/-! ### Removing what was inserted -/

/-- The cursor is as it was, but for the instruction that gets what the fragment had attached. -/
theorem insertInPlace_remove (cursor : Cursor) (fragment : Code) :
    (cursor.insertInPlace fragment).remove fragment.length =
      cursor.modifyCurrent (·.inherit fragment.labels fragment.markers) := by
  cases hindex : cursor.index? with
  | none =>
      rw [insertInPlace_of_index?_eq_none hindex, remove_of_index?_eq_none hindex, modifyCurrent,
        hindex]
  | some index =>
      have hnext : (cursor.insertInPlace fragment).index? = some index :=
        Splice.index?_perform hindex .insertInPlace rfl fragment
      rw [remove_eq hnext, insertInPlace_eq hindex, modifyCurrent, hindex]
      exact congrArg (fun code => { cursor with code })
        (Code.removeAt_insertAt (lt_of_index?_eq_some hindex) fragment)

theorem modifyCurrent_inherit_nil (cursor : Cursor) :
    cursor.modifyCurrent (·.inherit [] []) = cursor := by
  unfold modifyCurrent
  cases cursor.index? with
  | none => rfl
  | some index => exact congrArg (fun code => { cursor with code }) (List.modify_id index cursor.code)

/-- How insertions at the current instruction go together, and how a removal takes one back. To remove
as many instructions as were inserted in place gives back the cursor, with its position and its last
match; only the current instruction has the labels and markers of the fragment in front of its own, so
that a fragment without any leaves no trace. -/
theorem insertions_compose (cursor : Cursor) (h : cursor.isValid) (first second : Code) :
    (cursor.insertInPlace first).remove first.length =
        cursor.modifyCurrent (·.inherit first.labels first.markers) ∧
      (first.labels = [] → first.markers = [] →
        (cursor.insertInPlace first).remove first.length = cursor) ∧
      (cursor.insertBefore first).insertBefore second = cursor.insertBefore (first ++ second) ∧
      (cursor.insertInPlace second).insertInPlace first = cursor.insertInPlace (first ++ second) ∧
      (cursor.insertInPlace first).seekTo (cursor.position + first.length) =
        cursor.insertBefore first := by
  refine ⟨cursor.insertInPlace_remove first, fun hlabels hmarkers => ?_,
    cursor.insertBefore_insertBefore first second, cursor.insertInPlace_insertInPlace first second,
    insertInPlace_seekTo h first⟩
  rw [insertInPlace_remove, hlabels, hmarkers, modifyCurrent_inherit_nil]

/-- At the last instruction; the first fragment has a label on each of its instructions and opens a
region. -/
theorem insertions_compose_at_last :
    let code : Code := [.make .nop, ⟨.ret, .none, [⟨3⟩], [⟨.endRegion, none⟩]⟩]
    let cursor : Cursor := ⟨code, 1, some ⟨0, 1, []⟩⟩
    let first : Code := [⟨.dup, .none, [⟨1⟩], [⟨.beginTry, none⟩]⟩, ⟨.pop, .none, [⟨2⟩], []⟩]
    let second : Code := [.make .nop]
    let left : Cursor := (cursor.insertInPlace first).remove 2
    cursor.isValid ∧
      left.code = [.make .nop,
        ⟨.ret, .none, [⟨1⟩, ⟨2⟩, ⟨3⟩], [⟨.beginTry, none⟩, ⟨.endRegion, none⟩]⟩] ∧
      left.position = 1 ∧ left.lastMatch = some ⟨0, 1, []⟩ ∧
      second.labels = [] ∧ second.markers = [] ∧ (cursor.insertInPlace second).remove 1 = cursor ∧
      (cursor.insertBefore first).insertBefore second = cursor.insertBefore (first ++ second) ∧
      (cursor.insertInPlace second).insertInPlace first = cursor.insertInPlace (first ++ second) ∧
      (cursor.insertInPlace first).seekTo 3 = cursor.insertBefore first := by
  intro code cursor first second left
  have hvalid : cursor.isValid := by decide
  obtain ⟨hleft, -, hbehind, hinFront, hseek⟩ := insertions_compose cursor hvalid first second
  have hleft : left = cursor.modifyCurrent (·.inherit first.labels first.markers) := hleft
  have hsecond := (insertions_compose cursor hvalid second []).2.1 rfl rfl
  rw [hleft]
  exact ⟨hvalid, rfl, rfl, rfl, rfl, rfl, hsecond, hbehind, hinFront, hseek⟩

end Cursor

end CilEdit
