import CilEdit.Proofs.Cursor.Edits
import CilEdit.Proofs.Window.Search

/-! The range of positions. A window lies in the code that was searched, so a search leads to one of its
instructions or just behind one; an edit leaves at least as many instructions in front of the position
as there were. So a cursor never gets farther than just beyond the ends of its code, whatever is done
with it. -/

namespace CilEdit

/-! ### Windows -/

/-- Whether the window lies in code of the given length and starts at an instruction. -/
structure Window.Inside (length : Nat) (window : Window) : Prop where
  start_lt : window.start < length
  stop_le : window.stop ≤ length

theorem Window.Fits.inside {window : Window} {pattern : Pattern} {code : Code}
    (h : window.Fits pattern code) (hpattern : pattern ≠ []) : window.Inside code.length := by
  have hpos := List.length_pos_iff.mpr hpattern
  have hstop := h.stop_eq
  have hle := h.stop_le
  exact ⟨by omega, hle⟩

namespace Code

theorem inside_of_findWindow? {code : Code} {pattern : Pattern} {start : Nat} {window : Window}
    (h : code.findWindow? pattern start = some window) : window.Inside code.length := by
  obtain ⟨hpattern, hfits, -⟩ := findWindow?_eq_some_iff.mp h
  exact hfits.inside hpattern

theorem inside_of_findLastWindow? {code : Code} {pattern : Pattern} {limit : Nat} {window : Window}
    (h : code.findLastWindow? pattern limit = some window) : window.Inside code.length := by
  obtain ⟨hpattern, hfits, -⟩ := findLastWindow?_eq_some_iff.mp h
  exact hfits.inside hpattern

/-! ### Lengths -/

theorem length_bequeathLast (labels : List Label) (markers : List Marker) (code : Code) :
    (code.bequeathLast labels markers).length = code.length := by
  rcases List.eq_nil_or_concat code with rfl | ⟨front, heir, rfl⟩
  · rfl
  · rw [List.concat_eq_append, bequeathLast_concat, List.length_append, List.length_append]
    rfl

theorem length_splice {code fragment : Code} {index taken : Nat}
    (hfit : index + taken ≤ code.length) :
    (code.splice index taken fragment).length + taken = code.length + fragment.length := by
  rw [splice, List.length_append, List.length_append, length_bequeathFirst, List.length_take,
    List.length_drop]
  omega

theorem length_removeAt {code : Code} {index : Nat} (h : index ≤ code.length) (count : Nat) :
    (code.removeAt index count).length = index + (code.length - (index + count)) := by
  rcases Nat.lt_or_ge (index + count) code.length with hrest | hrest
  · rw [removeAt_of_lt hrest, List.length_append, length_bequeathFirst, List.length_take,
      List.length_drop, Nat.min_eq_left h]
  · rw [removeAt_of_le hrest, length_bequeathLast, List.length_take]
    omega

end Code

/-! ### Positions -/

namespace Cursor

/-- Whether the position is that of an instruction or just beyond an end of the code. -/
structure InRange (cursor : Cursor) : Prop where
  lower : -1 ≤ cursor.position
  upper : cursor.position ≤ cursor.length

theorem index?_eq_some_iff {cursor : Cursor} {index : Nat} :
    cursor.index? = some index ↔ cursor.position = index ∧ index < cursor.length := by
  rw [index?]
  split
  · rw [Option.some.injEq]
    omega
  · constructor
    · intro h
      cases h
    · omega

theorem index?_eq_none_iff {cursor : Cursor} :
    cursor.index? = none ↔ cursor.position < 0 ∨ cursor.length ≤ cursor.position := by
  rw [index?]
  split <;> simp <;> omega

theorem clamp_inRange (length : Nat) (position : Int) :
    -1 ≤ clamp length position ∧ clamp length position ≤ length := by
  unfold clamp
  omega

/-- Cutting a sum to 64 bits first changes nothing where the length of the code has 64 bits. -/
theorem clamp_ofIntClamp {length : Nat} (h : (length : Int) ≤ Int64.maxValue.toInt) (sum : Int) :
    clamp length (Int64.ofIntClamp sum).toInt = clamp length sum := by
  have hmin : Int64.minValue.toInt ≤ -1 := by decide
  unfold Int64.ofIntClamp clamp
  split
  · split
    · rw [Int64.toInt_ofIntLE]
    · omega
  · omega

variable {cursor : Cursor}

theorem InRange.of_natCast {place : Nat} (hposition : cursor.position = place)
    (hle : place ≤ cursor.length) : cursor.InRange := by
  constructor <;> rw [hposition] <;> omega

theorem InRange.of_neg_one (hposition : cursor.position = -1) : cursor.InRange := by
  constructor
  · exact Int.le_of_eq hposition.symm
  · rw [hposition]
    omega

theorem inRange_start (code : Code) : (start code).InRange := .of_natCast rfl (Nat.zero_le _)

/-! ### Moving -/

theorem inRange_seekTo (cursor : Cursor) (position : Int) : (cursor.seekTo position).InRange :=
  ⟨(clamp_inRange _ _).1, (clamp_inRange _ _).2⟩

theorem seekRelative_eq {index : Nat} (hindex : cursor.index? = some index) (offset : Int) :
    cursor.seekRelative offset = cursor.seekTo (index + offset) := by
  rw [seekRelative, hindex, seekTo, (index?_eq_some_iff.mp hindex).1]

theorem inRange_seekRelative (h : cursor.InRange) (offset : Int) :
    (cursor.seekRelative offset).InRange := by
  cases hindex : cursor.index? with
  | none => rwa [seekRelative, hindex]
  | some index =>
      rw [seekRelative_eq hindex]
      exact cursor.inRange_seekTo _

theorem inRange_seekWindow (h : cursor.InRange) (pattern : Pattern) {target : Window → Nat}
    (htarget : ∀ window : Window, window.Inside cursor.length → target window ≤ cursor.length) :
    (cursor.seekWindow pattern target).InRange := by
  unfold seekWindow
  cases hindex : cursor.index? with
  | none => exact h
  | some index =>
      cases hwindow : cursor.code.findWindow? pattern index with
      | none =>
          simp only [hwindow]
          exact .of_natCast rfl (Nat.le_refl _)
      | some window =>
          simp only [hwindow]
          exact .of_natCast rfl (htarget window (Code.inside_of_findWindow? hwindow))

theorem inRange_seekBackward (h : cursor.InRange) (pattern : Pattern) :
    (cursor.seekBackward pattern).InRange := by
  unfold seekBackward
  cases hindex : cursor.index? with
  | none => exact h
  | some index =>
      cases hwindow : cursor.code.findLastWindow? pattern index with
      | none =>
          simp only [hwindow]
          exact .of_neg_one rfl
      | some window =>
          simp only [hwindow]
          exact .of_natCast rfl (Nat.le_of_lt (Code.inside_of_findLastWindow? hwindow).start_lt)

theorem inRange_seekProducer (h : cursor.InRange) {above : Nat} {next : Cursor}
    (hnext : cursor.seekProducer above = .ok next) : next.InRange := by
  unfold seekProducer at hnext
  cases hindex : cursor.index? with
  | none =>
      rw [hindex] at hnext
      cases hnext
      exact h
  | some index =>
      simp only [hindex] at hnext
      rcases hproducer : cursor.code.producer? index above with failure | _ | producer <;>
        rw [hproducer] at hnext <;> cases hnext
      · exact .of_neg_one rfl
      · have hlt := Code.lt_of_producer? hproducer
        exact .of_natCast rfl (Nat.le_of_lt (Nat.lt_trans hlt (index?_eq_some_iff.mp hindex).2))

/-! ### Editing -/

theorem inRange_remove (h : cursor.InRange) (count : Nat) : (cursor.remove count).InRange := by
  unfold remove
  cases hindex : cursor.index? with
  | none => exact h
  | some index =>
      obtain ⟨hposition, hlt⟩ := index?_eq_some_iff.mp hindex
      refine .of_natCast hposition ?_
      rw [length, Code.length_removeAt (Nat.le_of_lt hlt)]
      exact Nat.le_add_right _ _

theorem inRange_modifyCurrent (h : cursor.InRange) (change : Instruction → Instruction) :
    (cursor.modifyCurrent change).InRange := by
  unfold modifyCurrent
  cases hindex : cursor.index? with
  | none => exact h
  | some index =>
      refine ⟨h.lower, ?_⟩
      rw [length, List.length_modify]
      exact h.upper

end Cursor

namespace Splice

/-- Where the cursor stands after a fragment was put in: at the fragment or just behind it. -/
def position (index : Nat) (fragment : Code) : Splice → Nat
  | insertBefore => index + fragment.length
  | insertInPlace | replace => index

theorem position_perform {cursor : Cursor} {index : Nat} (h : cursor.index? = some index)
    (edit : Splice) (fragment : Code) :
    (edit.perform cursor fragment).position = edit.position index fragment := by
  have hposition := (Cursor.index?_eq_some_iff.mp h).1
  cases edit with
  | insertBefore => simp only [perform, Cursor.insertBefore, h, position, Int.natCast_add]
  | insertInPlace => simp only [perform, Cursor.insertInPlace, h, position, hposition]
  | replace =>
      cases fragment with
      | nil => simp only [perform, Cursor.replace, Cursor.remove, h, position, hposition]
      | cons heir rest => simp only [perform, Cursor.replace, h, position, hposition]

/-- The instructions of the fragment come to those of the code, where it takes the place of others. -/
theorem length_perform {cursor : Cursor} {index : Nat} (h : cursor.index? = some index)
    {edit : Splice} {fragment : Code} (hheir : edit.taken = 0 ∨ fragment ≠ []) :
    (edit.perform cursor fragment).length + edit.taken = cursor.length + fragment.length := by
  have hlt := (Cursor.index?_eq_some_iff.mp h).2
  rw [Cursor.length, perform_eq h hheir]
  exact Code.length_splice (Nat.le_trans (Nat.add_le_add_left edit.taken_le index) hlt)

theorem inRange_perform {cursor : Cursor} (h : cursor.InRange) (edit : Splice) (fragment : Code) :
    (edit.perform cursor fragment).InRange := by
  cases hindex : cursor.index? with
  | none => rwa [edit.perform_of_index?_eq_none hindex]
  | some index =>
      by_cases hheir : edit.taken = 0 ∨ fragment ≠ []
      · refine .of_natCast (edit.position_perform hindex fragment) ?_
        have hlt := (Cursor.index?_eq_some_iff.mp hindex).2
        have hlength := length_perform hindex hheir
        cases edit <;> simp only [taken, position] at hlength ⊢ <;> omega
      · obtain ⟨hreplace, hnil⟩ := not_or.mp hheir
        have hedit : edit = replace := by
          cases edit <;> first | rfl | exact absurd rfl hreplace
        have hremove : replace.perform cursor [] = cursor.remove 1 := by
          simp only [perform, Cursor.replace, hindex]
        rw [hedit, Decidable.not_not.mp hnil, hremove]
        exact Cursor.inRange_remove h 1

end Splice

end CilEdit
