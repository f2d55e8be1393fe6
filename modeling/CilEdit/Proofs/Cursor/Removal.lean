import CilEdit.Proofs.Cursor.Range

/-! Removals in a row. What the instructions removed first had attached stands at the head of what is
left, so the second removal hands it on in front of what its own instructions had, as one removal of
both would. A removal that reaches the end of the code leaves the cursor just beyond it, where nothing
more is removed. So removals from one place on come to one removal, whatever their counts are. -/

namespace CilEdit

namespace Code

/-- Closes the gap that `removed` leaves between the instructions before it and those behind it. -/
def close (kept removed rest : Code) : Code :=
  if rest.isEmpty then kept.bequeathLast removed.labels removed.markers
  else kept ++ rest.bequeathFirst removed.labels removed.markers

theorem close_of_ne_nil (kept removed : Code) {rest : Code} (h : rest ≠ []) :
    close kept removed rest = kept ++ rest.bequeathFirst removed.labels removed.markers := by
  rw [close, List.isEmpty_eq_false_iff.mpr h]
  rfl

theorem close_nil (kept : Code) {rest : Code} (h : rest ≠ []) : close kept [] rest = kept ++ rest := by
  rw [close_of_ne_nil kept [] h]
  exact congrArg _ (bequeathFirst_nil rest)

theorem removeAt_append (kept rest : Code) (count : Nat) :
    removeAt (kept ++ rest) kept.length count =
      close kept (rest.take count) (rest.drop count) := by
  simp only [removeAt, close, List.take_left, List.drop_left, ← List.drop_drop]

theorem take_succ_bequeathFirst (labels : List Label) (markers : List Marker) (code : Code)
    (count : Nat) :
    (code.bequeathFirst labels markers).take (count + 1) =
      bequeathFirst labels markers (code.take (count + 1)) := by
  cases code <;> rfl

theorem drop_succ_bequeathFirst (labels : List Label) (markers : List Marker) (code : Code)
    (count : Nat) :
    (code.bequeathFirst labels markers).drop (count + 1) = code.drop (count + 1) := by
  cases code <;> rfl

/-- An heir hands on what it got in front of what it had. -/
theorem close_bequeathFirst (kept removed rest : Code) {more : Code} (h : more ≠ []) :
    close kept (more.bequeathFirst removed.labels removed.markers) rest =
      close kept (removed ++ more) rest := by
  have hlabels : Code.labels (more.bequeathFirst removed.labels removed.markers) =
      Code.labels (removed ++ more) :=
    (flatMap_bequeathFirst Instruction.handsOn_labels removed h).trans List.flatMap_append.symm
  have hmarkers : Code.markers (more.bequeathFirst removed.labels removed.markers) =
      Code.markers (removed ++ more) :=
    (flatMap_bequeathFirst Instruction.handsOn_markers removed h).trans List.flatMap_append.symm
  rw [close, close, hlabels, hmarkers]

theorem removeAt_zero {code : Code} {index : Nat} (h : index < code.length) :
    code.removeAt index 0 = code := by
  have hrest : code.drop index ≠ [] := by
    rw [Ne, List.drop_eq_nil_iff]
    omega
  have hzero := removeAt_append (code.take index) (code.drop index) 0
  rwa [List.take_append_drop, List.length_take_of_le (Nat.le_of_lt h), List.take_zero,
    List.drop_zero, close_nil _ hrest, List.take_append_drop] at hzero

/-- Where the first removal stopped at an instruction, the second one goes on from there. -/
theorem removeAt_close (kept removed : Code) {rest : Code} (h : rest ≠ []) (count : Nat) :
    (close kept removed rest).removeAt kept.length count =
      removeAt (kept ++ (removed ++ rest)) kept.length (removed.length + count) := by
  rw [close_of_ne_nil kept removed h, removeAt_append, removeAt_append, List.take_length_add_append,
    List.drop_length_add_append]
  cases count with
  | zero =>
      have hheir : rest.bequeathFirst removed.labels removed.markers ≠ [] := by
        rwa [Ne, ← List.length_eq_zero_iff, length_bequeathFirst, List.length_eq_zero_iff]
      rw [List.take_zero, List.take_zero, List.append_nil, List.drop_zero, List.drop_zero,
        close_nil kept hheir, close_of_ne_nil kept removed h]
  | succ count =>
      have hmore : rest.take (count + 1) ≠ [] := by
        rwa [Ne, List.take_eq_nil_iff, not_or, and_iff_right (Nat.succ_ne_zero count)]
      rw [take_succ_bequeathFirst, drop_succ_bequeathFirst, close_bequeathFirst kept removed _ hmore]

theorem removeAt_removeAt {code : Code} {index first : Nat} (h : index + first < code.length)
    (second : Nat) :
    (code.removeAt index first).removeAt index second = code.removeAt index (first + second) := by
  have hkept : (code.take index).length = index := List.length_take_of_le (by omega)
  have hremoved : ((code.drop index).take first).length = first :=
    List.length_take_of_le (by rw [List.length_drop]; omega)
  have hrest : (code.drop index).drop first ≠ [] := by
    rw [List.drop_drop, Ne, List.drop_eq_nil_iff]
    omega
  have hfirst := removeAt_append (code.take index) (code.drop index) first
  have hsecond := removeAt_close (code.take index) ((code.drop index).take first) hrest second
  rw [List.take_append_drop, hkept] at hfirst
  rwa [List.take_append_drop, List.take_append_drop, hkept, hremoved, ← hfirst] at hsecond

end Code

namespace Cursor

theorem remove_of_index?_eq_none {cursor : Cursor} (h : cursor.index? = none) (count : Nat) :
    cursor.remove count = cursor := by
  rw [remove, h]

theorem remove_eq {cursor : Cursor} {index : Nat} (h : cursor.index? = some index) (count : Nat) :
    cursor.remove count = { cursor with code := cursor.code.removeAt index count } := by
  rw [remove, h]

/-- Removals that stop at the same instruction, or both at the end of the code, are the same. -/
theorem remove_eq_remove {cursor : Cursor} {index first second : Nat}
    (h : cursor.index? = some index)
    (hstop : min (index + first) cursor.length = min (index + second) cursor.length) :
    cursor.remove first = cursor.remove second := by
  rcases Nat.lt_or_ge (index + first) cursor.length with hlt | hfirst
  · rw [show first = second by omega]
  · have hsecond : cursor.length ≤ index + second := by omega
    rw [remove_eq h, remove_eq h, Code.removeAt_of_le hfirst, Code.removeAt_of_le hsecond]

/-- A removal leaves the cursor at the instruction where it stopped, or else just beyond the end. -/
theorem index?_remove {cursor : Cursor} {index : Nat} (h : cursor.index? = some index)
    (count : Nat) :
    (cursor.remove count).index? = if index + count < cursor.length then some index else none := by
  obtain ⟨hposition, hlt⟩ := index?_eq_some_iff.mp h
  have hlength : (cursor.remove count).length = index + (cursor.length - (index + count)) := by
    rw [remove_eq h]
    exact Code.length_removeAt (Nat.le_of_lt hlt) count
  have hstays : (cursor.remove count).position = index := by rw [remove_eq h, hposition]
  split
  · exact index?_eq_some_iff.mpr ⟨hstays, by omega⟩
  · exact index?_eq_none_iff.mpr (.inr (by omega))

theorem remove_zero (cursor : Cursor) : cursor.remove 0 = cursor := by
  cases hindex : cursor.index? with
  | none => exact remove_of_index?_eq_none hindex 0
  | some index =>
      have hlt : index < cursor.code.length := (index?_eq_some_iff.mp hindex).2
      rw [remove_eq hindex, Code.removeAt_zero hlt]

/-- Two removals from one place on are one removal. -/
theorem remove_remove (cursor : Cursor) (first second : Nat) :
    (cursor.remove first).remove second = cursor.remove (first + second) := by
  cases hindex : cursor.index? with
  | none =>
      rw [remove_of_index?_eq_none hindex, remove_of_index?_eq_none hindex,
        remove_of_index?_eq_none hindex]
  | some index =>
      have hnext := index?_remove hindex first
      rcases Nat.lt_or_ge (index + first) cursor.length with hlt | hle
      · rw [if_pos hlt] at hnext
        rw [remove_eq hnext, remove_eq hindex, remove_eq hindex]
        exact congrArg (fun code => { cursor with code }) (Code.removeAt_removeAt hlt second)
      · rw [if_neg (Nat.not_lt.mpr hle)] at hnext
        rw [remove_of_index?_eq_none hnext]
        exact remove_eq_remove hindex (by omega)

/-- A removal and then any number of others are one removal. -/
theorem foldl_remove_remove (cursor : Cursor) (first : Nat) (counts : List Nat) :
    counts.foldl remove (cursor.remove first) = cursor.remove (counts.foldl (· + ·) first) := by
  induction counts generalizing first with
  | nil => rfl
  | cons count counts ih => rw [List.foldl_cons, remove_remove, ih, List.foldl_cons]

/-- Any number of removals in a row are one removal. -/
theorem foldl_remove (cursor : Cursor) (counts : List Nat) :
    counts.foldl remove cursor = cursor.remove (counts.foldl (· + ·) 0) := by
  rw [← foldl_remove_remove, remove_zero]

/-- A count may be cut to any number that the length of the code does not exceed. -/
theorem remove_min {cursor : Cursor} {limit : Nat} (h : cursor.length ≤ limit) (count : Nat) :
    cursor.remove (min count limit) = cursor.remove count := by
  cases hindex : cursor.index? with
  | none => rw [remove_of_index?_eq_none hindex, remove_of_index?_eq_none hindex]
  | some index => exact remove_eq_remove hindex (by omega)

/-- Removing twice leaves the cursor that one removal of the sum leaves: the same code with the same
labels and markers in the same order, the same position and the same last match. The sum may be cut to
any number that the length of the code does not exceed, such as the greatest count there is. -/
theorem remove_twice {cursor : Cursor} {limit : Nat} (hlimit : cursor.length ≤ limit)
    (first second : Nat) :
    (cursor.remove first).remove second = cursor.remove (first + second) ∧
      (cursor.remove first).remove second = cursor.remove (min (first + second) limit) :=
  ⟨remove_remove cursor first second, by rw [remove_min hlimit, remove_remove]⟩

/-- The second removal reaches the end of the code by far; all labels and markers go to the one
instruction that is left, those of the removed instructions in front. -/
theorem remove_twice_to_end :
    let code : Code := [⟨.nop, .none, [⟨0⟩], [⟨.endRegion, none⟩]⟩,
      ⟨.pop, .none, [⟨1⟩, ⟨2⟩], [⟨.beginTry, none⟩]⟩, ⟨.ret, .none, [⟨3⟩], []⟩]
    let cursor : Cursor := ⟨code, 1, none⟩
    let most : Nat := UInt64.size - 1
    cursor.length ≤ most ∧
      (cursor.remove 1).remove most = cursor.remove (1 + most) ∧
      (cursor.remove 1).remove most = cursor.remove (min (1 + most) most) ∧
      (cursor.remove 1).code.labels = [⟨0⟩, ⟨1⟩, ⟨2⟩, ⟨3⟩] ∧
      ((cursor.remove 1).remove most).code.labels = [⟨1⟩, ⟨2⟩, ⟨3⟩, ⟨0⟩] ∧
      ((cursor.remove 1).remove most).length = 1 := by
  intro code cursor most
  have hlimit : cursor.length ≤ most := by decide
  obtain ⟨hsum, hmin⟩ := remove_twice hlimit 1 most
  exact ⟨hlimit, hsum, hmin, by decide, by decide, by decide⟩

end Cursor

end CilEdit
