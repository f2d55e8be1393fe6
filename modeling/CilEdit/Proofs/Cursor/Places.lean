import CilEdit.Proofs.Cursor.Removal
import Mathlib.Data.List.Basic

/-! All that an edit does: which instructions it leaves, where the cursor stands and where the labels
are attached afterwards. Instructions are compared without what is attached to them, and a label is
followed by the list of the places that have it. Putting a fragment in the place of no instruction or
of one moves each place as the instructions move. A removal does so with the labels of the instructions
that stay; the labels of the removed ones come together at their heir. -/

namespace CilEdit

namespace Code

/-- The instructions without what is attached to them. -/
def bare (code : Code) : List (Opcode × Operand) :=
  code.map fun instruction => (instruction.opcode, instruction.operand)

/-- The indices of all instructions that the label is attached to. -/
def places (code : Code) (label : Label) : List Nat :=
  code.findIdxs fun instruction => decide (label ∈ instruction.labels)

/-! ### Instructions -/

theorem bare_append (code rest : Code) : bare (code ++ rest) = code.bare ++ rest.bare :=
  List.map_append

theorem bare_bequeathFirst (labels : List Label) (markers : List Marker) (code : Code) :
    Code.bare (code.bequeathFirst labels markers) = code.bare := by
  cases code <;> rfl

theorem bare_bequeathLast (labels : List Label) (markers : List Marker) (code : Code) :
    Code.bare (code.bequeathLast labels markers) = code.bare := by
  rcases List.eq_nil_or_concat code with rfl | ⟨front, heir, rfl⟩
  · rfl
  · rw [List.concat_eq_append, bequeathLast_concat, bare_append, bare_append]
    rfl

theorem bare_splice (code : Code) (index taken : Nat) (fragment : Code) :
    (code.splice index taken fragment).bare =
      Code.bare (code.take index) ++ fragment.bare ++ Code.bare (code.drop (index + taken)) := by
  simp only [splice, bare_append, bare_bequeathFirst]

theorem bare_close (kept removed rest : Code) :
    (close kept removed rest).bare = kept.bare ++ rest.bare := by
  unfold close
  split
  · rename_i hrest
    rw [bare_bequeathLast, List.isEmpty_iff.mp hrest]
    exact (List.append_nil _).symm
  · rw [bare_append, bare_bequeathFirst]

/-! ### Places -/

section Places

variable {code : Code} {label : Label} {place : Nat}

theorem mem_places : place ∈ code.places label ↔
    ∃ instruction, code[place]? = some instruction ∧ label ∈ instruction.labels := by
  rw [places, List.mem_findIdxs_iff_exists_getElem_pos]
  constructor
  · rintro ⟨hlt, hlabel⟩
    exact ⟨code[place], List.getElem?_eq_getElem hlt, of_decide_eq_true hlabel⟩
  · rintro ⟨instruction, hget, hlabel⟩
    obtain ⟨hlt, rfl⟩ := List.getElem?_eq_some_iff.mp hget
    exact ⟨hlt, decide_eq_true hlabel⟩

theorem lt_of_mem_places (h : place ∈ code.places label) : place < code.length := by
  obtain ⟨instruction, hget, -⟩ := mem_places.mp h
  exact (List.getElem?_eq_some_iff.mp hget).1

theorem places_eq_nil_iff : code.places label = [] ↔ label ∉ code.labels := by
  simp [places, labels, List.findIdxs_eq_nil_iff]

theorem places_append (code rest : Code) (label : Label) :
    places (code ++ rest) label =
      code.places label ++ (rest.places label).map (· + code.length) := by
  rw [places, List.findIdxs_append, Nat.zero_add]
  exact congrArg _ List.findIdxs_start

theorem places_singleton (instruction : Instruction) (label : Label) :
    places [instruction] label = if label ∈ instruction.labels then [0] else [] := by
  simp [places]

/-- Whether a label is attached in a stretch of the code tells whether its only place is there. -/
theorem mem_labels_stretch_iff (h : code.places label = [place]) (start count : Nat) :
    label ∈ Code.labels ((code.drop start).take count) ↔ start ≤ place ∧ place < start + count := by
  have hplace : ∀ index, (∃ instruction, code[index]? = some instruction ∧
      label ∈ instruction.labels) ↔ index = place := by
    intro index
    rw [← mem_places, h, List.mem_singleton]
  constructor
  · intro hlabel
    obtain ⟨instruction, hmem, hattached⟩ := List.mem_flatMap.mp hlabel
    obtain ⟨offset, hoffset⟩ := List.mem_iff_getElem?.mp hmem
    rw [List.getElem?_take, List.getElem?_drop] at hoffset
    split at hoffset
    · rename_i hlt
      have hindex := (hplace _).mp ⟨instruction, hoffset, hattached⟩
      omega
    · cases hoffset
  · rintro ⟨hle, hlt⟩
    obtain ⟨instruction, hget, hattached⟩ := (hplace place).mpr rfl
    refine List.mem_flatMap.mpr ⟨instruction, List.mem_iff_getElem?.mpr ⟨place - start, ?_⟩, hattached⟩
    rw [List.getElem?_take, List.getElem?_drop, if_pos (by omega), Nat.add_sub_cancel' hle, hget]

theorem mem_labels_take_iff (h : code.places label = [place]) (index : Nat) :
    label ∈ Code.labels (code.take index) ↔ place < index := by
  have hstretch := mem_labels_stretch_iff h 0 index
  rwa [List.drop_zero, Nat.zero_add, and_iff_right (Nat.zero_le place)] at hstretch

theorem mem_labels_drop_iff (h : code.places label = [place]) (index : Nat) :
    label ∈ Code.labels (code.drop index) ↔ index ≤ place := by
  have hlt : place < code.length :=
    lt_of_mem_places (by rw [h]; exact List.mem_singleton_self place)
  have hstretch := mem_labels_stretch_iff h index code.length
  rwa [List.take_of_length_le (by rw [List.length_drop]; omega), and_iff_left (by omega)] at hstretch

theorem places_bequeathFirst_of_not_mem {labels : List Label} (h : label ∉ labels)
    (markers : List Marker) (code : Code) :
    places (code.bequeathFirst labels markers) label = code.places label := by
  cases code with
  | nil => rfl
  | cons heir rest => simp [bequeathFirst, places, Instruction.inherit, h]

theorem places_bequeathLast_of_not_mem {labels : List Label} (h : label ∉ labels)
    (markers : List Marker) (code : Code) :
    places (code.bequeathLast labels markers) label = code.places label := by
  rcases List.eq_nil_or_concat code with rfl | ⟨front, heir, rfl⟩
  · rfl
  · rw [List.concat_eq_append, bequeathLast_concat, places_append, places_append, places_singleton,
      places_singleton]
    simp [Instruction.inherit, h]

theorem places_bequeathFirst_of_mem {labels : List Label} (h : label ∈ labels)
    (markers : List Marker) {code : Code} (hcode : code ≠ []) (hlabel : label ∉ code.labels) :
    places (code.bequeathFirst labels markers) label = [0] := by
  cases code with
  | nil => exact absurd rfl hcode
  | cons heir rest =>
      have hrest : Code.places rest label = [] :=
        places_eq_nil_iff.mpr fun hmem => hlabel (List.mem_append_right heir.labels hmem)
      have hheir : label ∈ (heir.inherit labels markers).labels := List.mem_append_left _ h
      rw [bequeathFirst, ← List.singleton_append, places_append, hrest, places_singleton,
        if_pos hheir]
      rfl

theorem places_bequeathLast_of_mem {labels : List Label} (h : label ∈ labels)
    (markers : List Marker) {code : Code} (hcode : code ≠ []) (hlabel : label ∉ code.labels) :
    places (code.bequeathLast labels markers) label = [code.length - 1] := by
  obtain ⟨front, heir, rfl⟩ := (List.eq_nil_or_concat code).resolve_left hcode
  rw [List.concat_eq_append] at hlabel ⊢
  rw [labels_append, List.mem_append, not_or] at hlabel
  have hheir : label ∈ (heir.inherit labels markers).labels := List.mem_append_left _ h
  rw [bequeathLast_concat, places_append, places_eq_nil_iff.mpr hlabel.1, places_singleton,
    if_pos hheir, List.length_append]
  simp

end Places

/-! ### Where labels are after an edit -/

section Edits

variable {code fragment : Code} {index : Nat} {label : Label}

/-- When two parts have the label at the same places, exchanging them moves all other places as the
instructions move. -/
theorem places_exchange (old new : Code) (h : new.places label = old.places label)
    (left right : Code) :
    places (left ++ new ++ right) label =
      (places (left ++ old ++ right) label).map (shift left.length old.length new.length) := by
  have hleft : (left.places label).map (shift left.length old.length new.length) =
      left.places label := by
    refine (List.map_congr_left fun place hplace => ?_).trans (List.map_id _)
    have hlt := lt_of_mem_places hplace
    exact if_pos (by omega)
  have hold : ((old.places label).map (· + left.length)).map
      (shift left.length old.length new.length) = (old.places label).map (· + left.length) := by
    rw [List.map_map]
    refine List.map_congr_left fun place hplace => ?_
    have hlt := lt_of_mem_places hplace
    exact if_pos (show place + left.length < left.length + old.length by omega)
  have hright : ((right.places label).map (· + (left ++ old).length)).map
      (shift left.length old.length new.length) =
        (right.places label).map (· + (left ++ new).length) := by
    rw [List.map_map]
    refine List.map_congr_left fun place _ => ?_
    rw [Function.comp_apply, List.length_append, List.length_append, shift, if_neg (by omega)]
    omega
  rw [places_append, places_append, places_append, places_append, List.map_append, List.map_append,
    hleft, hold, hright, h]

/-- A fragment without the label that takes the place of no instruction or of one moves the places of
the label as the instructions move; a replaced instruction hands the label to the first one of the
fragment. -/
theorem places_splice {taken : Nat} (hfit : index + taken ≤ code.length) (htaken : taken ≤ 1)
    (hheir : taken = 0 ∨ fragment ≠ []) (hlabel : label ∉ fragment.labels) :
    (code.splice index taken fragment).places label =
      (code.places label).map (shift index taken fragment.length) := by
  let old : Code := (code.drop index).take taken
  have hold : old.length = taken :=
    List.length_take_of_le (by rw [List.length_drop]; omega)
  have hleft : (code.take index).length = index := List.length_take_of_le (by omega)
  have hagree : (fragment.bequeathFirst old.labels old.markers).places label =
      old.places label := by
    by_cases hmem : label ∈ old.labels
    · have hne : fragment ≠ [] := by
        rcases hheir with rfl | hne
        · cases hmem
        · exact hne
      have hpos : 0 < old.length :=
        List.length_pos_iff.mpr (List.ne_nil_of_mem (List.mem_flatMap.mp hmem).choose_spec.1)
      obtain ⟨current, hcurrent⟩ := List.length_eq_one_iff.mp (show old.length = 1 by omega)
      rw [places_bequeathFirst_of_mem hmem _ hne hlabel, hcurrent, places_singleton, if_pos]
      rwa [hcurrent, Code.labels, List.flatMap_singleton] at hmem
    · rw [places_bequeathFirst_of_not_mem hmem, places_eq_nil_iff.mpr hlabel,
        places_eq_nil_iff.mpr hmem]
  have hexchange := places_exchange old _ hagree (code.take index) (code.drop (index + taken))
  rwa [take_append_take_append_drop, hleft, hold, length_bequeathFirst] at hexchange

theorem places_close_of_not_mem {removed : Code} (h : label ∉ removed.labels) (kept rest : Code) :
    (close kept removed rest).places label =
      (places (kept ++ removed ++ rest) label).map (shift kept.length removed.length 0) := by
  have hexchange := places_exchange removed [] (places_eq_nil_iff.mpr h).symm kept rest
  rw [List.append_nil, List.length_nil] at hexchange
  rw [← hexchange, close]
  split
  · rename_i hrest
    rw [places_bequeathLast_of_not_mem h, List.isEmpty_iff.mp hrest, List.append_nil]
  · rw [places_append, places_append, places_bequeathFirst_of_not_mem h]

theorem places_close_of_mem {kept removed rest : Code} (h : label ∈ removed.labels)
    (hkept : label ∉ kept.labels) (hrest : label ∉ rest.labels) :
    (close kept removed rest).places label =
      if rest ≠ [] then [kept.length] else if kept ≠ [] then [kept.length - 1] else [] := by
  by_cases hbehind : rest = []
  · rw [if_neg (not_not_intro hbehind), hbehind, close]
    by_cases hbefore : kept = []
    · rw [if_neg (not_not_intro hbefore), hbefore]
      rfl
    · rw [if_pos hbefore]
      exact places_bequeathLast_of_mem h _ hbefore hkept
  · rw [if_pos hbehind, close_of_ne_nil _ _ hbehind, places_append, places_eq_nil_iff.mpr hkept,
      places_bequeathFirst_of_mem h _ hbehind hrest]
    exact congrArg (fun place => [place]) (Nat.zero_add _)

/-- The instructions of the code before, within and behind a removal. -/
theorem removeAt_eq_close (hindex : index ≤ code.length) (count : Nat) :
    code.removeAt index count =
      close (code.take index) ((code.drop index).take count) (code.drop (index + count)) := by
  have happend := removeAt_append (code.take index) (code.drop index) count
  rwa [List.take_append_drop, List.length_take_of_le hindex, List.drop_drop] at happend

/-- Where a label that had one place is after a removal: with the instruction that had it, or else with
the heir of that instruction, if one is left. -/
theorem places_removeAt (hindex : index ≤ code.length) (count : Nat) {place : Nat}
    (hplace : code.places label = [place]) :
    (code.removeAt index count).places label =
      if place < index then [place]
      else if index + count ≤ place then [place - count]
      else if index + count < code.length then [index]
      else if 0 < index then [index - 1] else [] := by
  have hlt : place < code.length :=
    lt_of_mem_places (by rw [hplace]; exact List.mem_singleton_self place)
  have hremoved := mem_labels_stretch_iff hplace index count
  rw [removeAt_eq_close hindex]
  by_cases hmem : index ≤ place ∧ place < index + count
  · have hkept : label ∉ Code.labels (code.take index) :=
      (mem_labels_take_iff hplace index).not.mpr (Nat.not_lt.mpr hmem.1)
    have hrest : label ∉ Code.labels (code.drop (index + count)) :=
      (mem_labels_drop_iff hplace (index + count)).not.mpr (Nat.not_le.mpr hmem.2)
    rw [places_close_of_mem (hremoved.mpr hmem) hkept hrest, List.length_take_of_le hindex,
      if_neg (Nat.not_lt.mpr hmem.1), if_neg (Nat.not_le.mpr hmem.2)]
    have hbehind : code.drop (index + count) ≠ [] ↔ index + count < code.length := by
      rw [Ne, List.drop_eq_nil_iff, Nat.not_le]
    have hbefore : code.take index ≠ [] ↔ 0 < index := by
      rw [← List.length_pos_iff, List.length_take_of_le hindex]
    simp only [hbehind, hbefore]
  · rw [places_close_of_not_mem (fun h => hmem (hremoved.mp h)), take_append_take_append_drop, hplace,
      List.map_singleton, List.length_take_of_le hindex]
    rcases Nat.lt_or_ge place index with hbefore | hbehind
    · rw [if_pos hbefore, shift, if_pos (by omega)]
    · have hcount : ((code.drop index).take count).length = count :=
        List.length_take_of_le (by rw [List.length_drop]; omega)
      rw [if_neg (by omega), if_pos (by omega), hcount, shift, if_neg (by omega), Nat.add_zero]

end Edits

end Code

namespace Splice

variable {cursor : Cursor} {index : Nat} {fragment : Code}

theorem bare_perform (h : cursor.index? = some index) (edit : Splice)
    (hheir : edit.taken = 0 ∨ fragment ≠ []) :
    (edit.perform cursor fragment).code.bare =
      Code.bare (cursor.code.take index) ++ fragment.bare ++
        Code.bare (cursor.code.drop (index + edit.taken)) := by
  rw [perform_eq h hheir, Code.bare_splice]

theorem places_perform (h : cursor.index? = some index) (edit : Splice)
    (hheir : edit.taken = 0 ∨ fragment ≠ []) {label : Label} (hlabel : label ∉ fragment.labels) :
    (edit.perform cursor fragment).code.places label =
      (cursor.code.places label).map (Code.shift index edit.taken fragment.length) := by
  have hlt := Cursor.lt_of_index?_eq_some h
  have hfit : index + edit.taken ≤ cursor.code.length :=
    Nat.le_trans (Nat.add_le_add_left edit.taken_le index) hlt
  rw [perform_eq h hheir, Code.places_splice hfit edit.taken_le hheir hlabel]

end Splice

namespace Cursor

variable {cursor : Cursor} {index : Nat}

theorem bare_remove (h : cursor.index? = some index) (count : Nat) :
    (cursor.remove count).code.bare =
      Code.bare (cursor.code.take index) ++ Code.bare (cursor.code.drop (index + count)) := by
  have hlt := lt_of_index?_eq_some h
  rw [remove_eq h]
  exact (congrArg Code.bare (Code.removeAt_eq_close (Nat.le_of_lt hlt) count)).trans
    (Code.bare_close _ _ _)

theorem places_remove (h : cursor.index? = some index) (count : Nat) {label : Label} {place : Nat}
    (hplace : cursor.code.places label = [place]) :
    (cursor.remove count).code.places label =
      if place < index then [place]
      else if index + count ≤ place then [place - count]
      else if index + count < cursor.length then [index]
      else if 0 < index then [index - 1] else [] := by
  have hlt := lt_of_index?_eq_some h
  rw [remove_eq h]
  exact Code.places_removeAt (Nat.le_of_lt hlt) count hplace

/-- All that the edits at the current instruction do, where a removal stops in front of `stop`. The
first part says which instructions they leave, labels and markers aside, the second one where the
cursor stands. The last part follows a label that is attached at one place: it stays with its
instruction, goes from a replaced instruction to the first one of the fragment, and from removed
instructions to the next one that is left, or to the one before them if they were the last. Only where
no instruction is left the label is at no place. -/
theorem edits_exact (h : cursor.index? = some index) (fragment : Code) (count : Nat) :
    let before := Code.bare (cursor.code.take index)
    let stop := min (index + count) cursor.length
    ((cursor.insertBefore fragment).code.bare =
        before ++ fragment.bare ++ Code.bare (cursor.code.drop index) ∧
      (cursor.insertInPlace fragment).code.bare =
        before ++ fragment.bare ++ Code.bare (cursor.code.drop index) ∧
      (fragment ≠ [] → (cursor.replace fragment).code.bare =
        before ++ fragment.bare ++ Code.bare (cursor.code.drop (index + 1))) ∧
      cursor.replace [] = cursor.remove 1 ∧
      (cursor.remove count).code.bare = before ++ Code.bare (cursor.code.drop stop)) ∧
    ((cursor.insertBefore fragment).position = index + fragment.length ∧
      (cursor.insertInPlace fragment).position = index ∧
      (cursor.replace fragment).position = index ∧
      (cursor.remove count).position = index) ∧
    ∀ (label : Label) (place : Nat), cursor.code.places label = [place] →
      (label ∉ fragment.labels →
        (cursor.insertBefore fragment).code.places label =
          [if place < index then place else place + fragment.length] ∧
        (cursor.insertInPlace fragment).code.places label =
          [if place < index then place else place + fragment.length] ∧
        (fragment ≠ [] → (cursor.replace fragment).code.places label =
          [if place ≤ index then place else place + fragment.length - 1])) ∧
      (cursor.remove count).code.places label =
        if place < index then [place]
        else if stop ≤ place then [place - (stop - index)]
        else if stop < cursor.length then [index]
        else if 0 < index then [index - 1] else [] := by
  intro before stop
  have hlt := (index?_eq_some_iff.mp h).2
  have hstop : index + (stop - index) = stop :=
    Nat.add_sub_cancel' (Nat.le_min.mpr ⟨Nat.le_add_right _ _, Nat.le_of_lt hlt⟩)
  have hremove : cursor.remove count = cursor.remove (stop - index) :=
    remove_eq_remove h (by rw [hstop, Nat.min_assoc, Nat.min_self])
  refine ⟨⟨?_, ?_, ?_, ?_, ?_⟩, ⟨?_, ?_, ?_, ?_⟩, fun label place hplace =>
    ⟨fun hlabel => ⟨?_, ?_, ?_⟩, ?_⟩⟩
  · exact Splice.bare_perform h .insertBefore (.inl rfl)
  · exact Splice.bare_perform h .insertInPlace (.inl rfl)
  · exact fun hfragment => Splice.bare_perform h .replace (.inr hfragment)
  · simp only [replace, h]
  · rw [hremove, bare_remove h, hstop]
  · exact Splice.position_perform h .insertBefore fragment
  · exact Splice.position_perform h .insertInPlace fragment
  · exact Splice.position_perform h .replace fragment
  · rw [remove_eq h, (index?_eq_some_iff.mp h).1]
  · exact (Splice.places_perform h .insertBefore (.inl rfl) hlabel).trans
      (congrArg (List.map _) hplace)
  · exact (Splice.places_perform h .insertInPlace (.inl rfl) hlabel).trans
      (congrArg (List.map _) hplace)
  · intro hfragment
    rw [show cursor.replace fragment = Splice.replace.perform cursor fragment from rfl,
      Splice.places_perform h .replace (.inr hfragment) hlabel, hplace, List.map_singleton, Code.shift]
    simp only [Splice.taken, Nat.lt_succ_iff]
  · rw [hremove, places_remove h (stop - index) hplace, hstop]

/-- The last two of three instructions have a label; one of them is replaced, or both are removed. -/
theorem edits_exact_at_label :
    let code : Code := [.make .nop, ⟨.pop, .none, [⟨1⟩], []⟩, ⟨.ret, .none, [⟨2⟩], []⟩]
    let cursor : Cursor := ⟨code, 1, none⟩
    cursor.index? = some 1 ∧ code.places ⟨1⟩ = [1] ∧ code.places ⟨2⟩ = [2] ∧
      (cursor.replace [.make .dup, .make .pop]).code.bare =
        [(.nop, .none), (.dup, .none), (.pop, .none), (.ret, .none)] ∧
      (cursor.replace [.make .dup, .make .pop]).code.places ⟨1⟩ = [1] ∧
      (cursor.replace [.make .dup, .make .pop]).code.places ⟨2⟩ = [3] ∧
      (cursor.remove 9).code.places ⟨1⟩ = [0] ∧ (cursor.remove 9).code.places ⟨2⟩ = [0] := by
  intro code cursor
  have hindex : cursor.index? = some 1 := by decide
  have hfirst : code.places ⟨1⟩ = [1] := by decide
  have hsecond : code.places ⟨2⟩ = [2] := by decide
  obtain ⟨⟨-, -, hbare, -⟩, -, hplaces⟩ := edits_exact hindex [.make .dup, .make .pop] 9
  obtain ⟨hput, hremove⟩ := hplaces ⟨1⟩ 1 hfirst
  obtain ⟨hputSecond, hremoveSecond⟩ := hplaces ⟨2⟩ 2 hsecond
  exact ⟨hindex, hfirst, hsecond, hbare (List.cons_ne_nil _ _),
    (hput (by decide)).2.2 (List.cons_ne_nil _ _),
    (hputSecond (by decide)).2.2 (List.cons_ne_nil _ _), hremove, hremoveSecond⟩

end Cursor

end CilEdit
