import CilEdit.Proofs.Cursor.Insertion
import CilEdit.Proofs.Window.Greedy
import CilEdit.Proofs.Window.Transport
import Mathlib.Data.List.TakeDrop
import Mathlib.Logic.Function.Iterate

/-! Putting a fragment behind every window, one round of searching and inserting after the other. In each
round the cursor passes the inserted fragment, so all that a later search sees is what is left of the
original code, and a fragment that holds windows itself is never searched. The distance from the cursor
to the end shrinks in every round, however long the code gets. -/

namespace CilEdit

namespace Code

/-- The code from `start` on with the fragment behind each of the windows, but for a window at the
end. -/
def insertBehind (code fragment : Code) : Nat → List Window → Code
  | start, [] => code.drop start
  | start, window :: windows =>
    (code.take window.stop).drop start ++ (if window.stop < code.length then fragment else []) ++
      code.insertBehind fragment window.stop windows

theorem stretch_append_drop (code : Code) {start stop : Nat} (h : start ≤ stop) :
    (code.take stop).drop start ++ code.drop stop = code.drop start := by
  have happend := List.drop_take_append_drop code start (stop - start)
  rwa [← List.drop_take, Nat.add_sub_cancel' h] at happend

end Code

namespace Cursor

/-- One round: the cursor goes behind the next window and puts the fragment there. Beyond the end of the
code, where no window is left or the window was the last thing in the code, nothing is inserted. -/
def insertBehindNext (pattern : Pattern) (fragment : Code) (cursor : Cursor) : Cursor :=
  (cursor.seekForwardToEnd pattern).insertBefore fragment

/-- Whether the cursor stands where the code from `start` on begins, with `front` before it. -/
structure Reached (cursor : Cursor) (code front : Code) (start : Nat) : Prop where
  code_eq : cursor.code = front ++ code.drop start
  position_eq : cursor.position = front.length

variable {cursor : Cursor} {code front fragment : Code} {pattern : Pattern} {start : Nat}

theorem reached_start (code : Code) : (Cursor.start code).Reached code [] 0 := ⟨rfl, rfl⟩

namespace Reached

theorem length_eq (h : cursor.Reached code front start) :
    cursor.length = front.length + (code.length - start) := by
  rw [length, h.code_eq, List.length_append, List.length_drop]

theorem index?_eq (h : cursor.Reached code front start) (hstart : start < code.length) :
    cursor.index? = some front.length := by
  have hlength := h.length_eq
  exact index?_eq_some_iff.mpr ⟨h.position_eq, by omega⟩

theorem index?_eq_none (h : cursor.Reached code front start) (hstart : code.length ≤ start) :
    cursor.index? = none := by
  have hlength := h.length_eq
  have hposition := h.position_eq
  exact index?_eq_none_iff.mpr (.inr (by omega))

/-- The search sees what is left of the original code. -/
theorem findWindow?_eq (h : cursor.Reached code front start) (pattern : Pattern) :
    cursor.code.findWindow? pattern front.length =
      (Code.findWindow? (code.drop start) pattern 0).map (Window.offset front.length) := by
  rw [Code.findWindow?_eq_offset, h.code_eq, List.drop_left]

/-- Where no window is left, the search goes beyond the end. -/
theorem seekForwardToEnd_of_none (h : cursor.Reached code front start)
    (hstart : start < code.length) (hwindow : code.findWindow? pattern start = none) :
    (cursor.seekForwardToEnd pattern).Reached code (front ++ code.drop start) code.length := by
  rw [Code.findWindow?_eq_offset, Option.map_eq_none_iff] at hwindow
  have hfind := h.findWindow?_eq pattern
  rw [hwindow, Option.map_none] at hfind
  rw [seekForwardToEnd, seekWindow, h.index?_eq hstart]
  simp only [hfind]
  constructor
  · rw [List.drop_length, List.append_nil, h.code_eq]
  · rw [length, h.code_eq]

/-- A search that finds a window goes behind what the window ends with. -/
theorem seekForwardToEnd_of_some (h : cursor.Reached code front start)
    (hstart : start < code.length) {window : Window}
    (hwindow : code.findWindow? pattern start = some window) :
    (cursor.seekForwardToEnd pattern).Reached code
      (front ++ (code.take window.stop).drop start) window.stop := by
  obtain ⟨hlt, hle⟩ := Pattern.lt_stop_of_findWindow? hwindow
  rw [Code.findWindow?_eq_offset, Option.map_eq_some_iff] at hwindow
  obtain ⟨found, hfound, rfl⟩ := hwindow
  have hfind := h.findWindow?_eq pattern
  rw [hfound, Option.map_some] at hfind
  rw [seekForwardToEnd, seekWindow, h.index?_eq hstart]
  simp only [hfind]
  constructor
  · rw [List.append_assoc, Code.stretch_append_drop code (Nat.le_of_lt hlt), h.code_eq]
  · have hplace : front.length + (found.stop + start - start) = found.stop + front.length := by
      omega
    rw [List.length_append, List.length_drop, List.length_take_of_le hle]
    exact congrArg Nat.cast hplace.symm

/-- What is inserted before the cursor comes to what it has behind it. -/
theorem insertBefore (h : cursor.Reached code front start) (fragment : Code) :
    (cursor.insertBefore fragment).Reached code
      (front ++ if start < code.length then fragment else []) start := by
  by_cases hstart : start < code.length
  · rw [insertBefore_eq (h.index?_eq hstart), if_pos hstart]
    constructor
    · rw [h.code_eq, Code.insertAt_append]
    · rw [List.length_append, Int.natCast_add]
  · rw [insertBefore_of_index?_eq_none (h.index?_eq_none (Nat.le_of_not_lt hstart)), if_neg hstart,
      List.append_nil]
    exact h

theorem isValid (h : cursor.Reached code front start) (hstart : start < code.length) :
    cursor.isValid := by
  rw [Cursor.isValid, h.index?_eq hstart, Option.isSome_some]

/-- Where nothing of the original code is left, the cursor is beyond the end. -/
theorem at_end (h : cursor.Reached code front start) (hstart : code.length ≤ start) :
    cursor.Reached code (front ++ code.drop start) code.length := by
  have hrest : code.drop start = [] := List.drop_eq_nil_of_le hstart
  constructor
  · rw [h.code_eq, hrest, List.drop_length, List.append_nil, List.append_nil]
  · rw [hrest, List.append_nil]
    exact h.position_eq

/-- The rounds that it takes from a place on, one for each window that is taken and at most one more,
and the code that they leave. -/
theorem sweep (hpattern : pattern ≠ []) {windows : List Window}
    (hwindows : pattern.Greedy code start windows) (h : cursor.Reached code front start)
    (fragment : Code) :
    ∃ rounds ≤ windows.length + 1,
      (∀ done < rounds, ((insertBehindNext pattern fragment)^[done] cursor).isValid) ∧
      ((insertBehindNext pattern fragment)^[rounds] cursor).Reached code
        (front ++ code.insertBehind fragment start windows) code.length := by
  induction windows generalizing start cursor front with
  | nil =>
      by_cases hstart : start < code.length
      · have hwindow := (Pattern.greedy_nil_iff hpattern).mp hwindows
        have hround := (h.seekForwardToEnd_of_none hstart hwindow).insertBefore fragment
        rw [if_neg (Nat.lt_irrefl _), List.append_nil] at hround
        refine ⟨1, Nat.le_refl _, fun done hdone => ?_, hround⟩
        rw [Nat.lt_one_iff.mp hdone]
        exact h.isValid hstart
      · exact ⟨0, Nat.zero_le _, fun done hdone => absurd hdone (Nat.not_lt_zero done),
          h.at_end (Nat.le_of_not_lt hstart)⟩
  | cons window windows ih =>
      obtain ⟨hwindow, hlater⟩ := (Pattern.greedy_cons_iff hpattern).mp hwindows
      obtain ⟨hlt, hle⟩ := Pattern.lt_stop_of_findWindow? hwindow
      have hstart : start < code.length := Nat.lt_of_lt_of_le hlt hle
      have hround := (h.seekForwardToEnd_of_some hstart hwindow).insertBefore fragment
      obtain ⟨rounds, hrounds, hvalid, hlast⟩ := ih hlater hround
      refine ⟨rounds + 1, Nat.succ_le_succ hrounds, fun done hdone => ?_, ?_⟩
      · cases done with
        | zero => exact h.isValid hstart
        | succ done =>
            rw [Function.iterate_succ_apply]
            exact hvalid done (Nat.lt_of_succ_lt_succ hdone)
      · rw [Function.iterate_succ_apply, Code.insertBehind, ← List.append_assoc, ← List.append_assoc]
        exact hlast

end Reached

/-- Beyond the ends a round does nothing. -/
theorem insertBehindNext_of_index?_eq_none (h : cursor.index? = none) (pattern : Pattern)
    (fragment : Code) : cursor.insertBehindNext pattern fragment = cursor := by
  have hseek : cursor.seekForwardToEnd pattern = cursor := by
    rw [seekForwardToEnd, seekWindow, h]
  rw [insertBehindNext, hseek, insertBefore_of_index?_eq_none h]

/-- Rounds of searching and inserting come to an end and never touch what they inserted. Each round goes
on from an instruction until the cursor is beyond the end, after at most one round more than windows are
taken and so at most one more than the code had instructions; from then on nothing changes. What is left
is the original code with the fragment right behind each of the windows that are taken from left to
right without overlap, but for one at the end of the code. -/
theorem insertBehindNext_sweeps (code fragment : Code) {pattern : Pattern} (hpattern : pattern ≠ []) :
    ∃ windows rounds, pattern.Greedy code 0 windows ∧
      (∀ others, pattern.Greedy code 0 others → others = windows) ∧
      rounds ≤ windows.length + 1 ∧ rounds ≤ code.length + 1 ∧
      (∀ done < rounds, ((insertBehindNext pattern fragment)^[done] (Cursor.start code)).isValid) ∧
      ∀ done, rounds ≤ done →
        ((insertBehindNext pattern fragment)^[done] (Cursor.start code)).isValid = false ∧
        ((insertBehindNext pattern fragment)^[done] (Cursor.start code)).code =
          code.insertBehind fragment 0 windows := by
  obtain ⟨windows, hwindows⟩ := Pattern.exists_greedy hpattern code 0
  obtain ⟨rounds, hrounds, hvalid, hlast⟩ := Reached.sweep hpattern hwindows (reached_start code) fragment
  have hlength := hwindows.length_le hpattern
  have hbeyond := hlast.index?_eq_none (Nat.le_refl _)
  refine ⟨windows, rounds, hwindows, fun others hothers => hwindows.eq hpattern hothers, hrounds,
    by omega, hvalid, fun done hdone => ?_⟩
  obtain ⟨more, rfl⟩ := Nat.exists_eq_add_of_le' hdone
  rw [Function.iterate_add_apply,
    Function.iterate_fixed (insertBehindNext_of_index?_eq_none hbeyond pattern fragment)]
  constructor
  · rw [Cursor.isValid, hbeyond, Option.isSome_none]
  · rw [hlast.code_eq, List.drop_length, List.append_nil, List.nil_append]

/-- The fragment holds the pattern twice, and the last window ends the code. -/
theorem insertBehindNext_sweeps_copies :
    let code : Code := [.make .dup, .make .nop, .make .dup]
    let pattern : Pattern := [.oneOf [.dup]]
    let fragment : Code := [.make .dup, .make .dup, .make .pop]
    pattern ≠ [] ∧ ∃ rounds ≤ 4,
      ((insertBehindNext pattern fragment)^[rounds] (Cursor.start code)).isValid = false ∧
      ((insertBehindNext pattern fragment)^[rounds] (Cursor.start code)).code =
        [.make .dup, .make .dup, .make .dup, .make .pop, .make .nop, .make .dup] := by
  intro code pattern fragment
  have hpattern : pattern ≠ [] := List.cons_ne_nil _ _
  obtain ⟨windows, rounds, -, hunique, -, hrounds, -, hafter⟩ :=
    insertBehindNext_sweeps code fragment hpattern
  have hwindows : pattern.Greedy code 0 [⟨0, 1, []⟩, ⟨2, 3, []⟩] :=
    (Pattern.greedy_cons_iff hpattern).mpr ⟨rfl,
      (Pattern.greedy_cons_iff hpattern).mpr ⟨rfl, (Pattern.greedy_nil_iff hpattern).mpr rfl⟩⟩
  obtain ⟨hvalid, hcode⟩ := hafter rounds (Nat.le_refl _)
  rw [← hunique _ hwindows] at hcode
  exact ⟨hpattern, rounds, hrounds, hvalid, hcode⟩

end Cursor

end CilEdit
