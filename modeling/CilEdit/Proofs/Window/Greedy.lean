import CilEdit.Proofs.Window.Search

/-! The windows that are taken from left to right without overlap: each is the first one that starts
where the one before stops or later. They are determined by the code and the pattern, and there are no
more of them than instructions. -/

namespace CilEdit

namespace Pattern

/-- Whether the windows are those that are taken from the given place on, from left to right, each the
first one that starts at the stop of the one before or behind it. -/
inductive Greedy (pattern : Pattern) (code : Code) : Nat → List Window → Prop
  | done {start : Nat} : (∀ index, start ≤ index → ¬pattern.AcceptsAt code index) →
      Greedy pattern code start []
  | next {start : Nat} {window : Window} {windows : List Window} : window.Fits pattern code →
      start ≤ window.start →
      (∀ index, start ≤ index → pattern.AcceptsAt code index → window.start ≤ index) →
      Greedy pattern code window.stop windows → Greedy pattern code start (window :: windows)

variable {pattern : Pattern} {code : Code} {start : Nat} {windows : List Window}

theorem greedy_nil_iff (hpattern : pattern ≠ []) :
    pattern.Greedy code start [] ↔ code.findWindow? pattern start = none := by
  rw [Code.findWindow?_eq_none_iff, or_iff_right hpattern]
  constructor
  · intro h
    cases h with
    | done hnowhere => exact hnowhere
  · exact .done

theorem greedy_cons_iff (hpattern : pattern ≠ []) {window : Window} :
    pattern.Greedy code start (window :: windows) ↔
      code.findWindow? pattern start = some window ∧
        pattern.Greedy code window.stop windows := by
  rw [Code.findWindow?_eq_some_iff, and_iff_right hpattern]
  constructor
  · intro h
    cases h with
    | next hfits hstart hfirst hlater => exact ⟨⟨hfits, hstart, hfirst⟩, hlater⟩
  · rintro ⟨⟨hfits, hstart, hfirst⟩, hlater⟩
    exact .next hfits hstart hfirst hlater

theorem Greedy.eq {others : List Window} (hpattern : pattern ≠ [])
    (h : pattern.Greedy code start windows) (hothers : pattern.Greedy code start others) :
    others = windows := by
  induction windows generalizing start others with
  | nil =>
      cases others with
      | nil => rfl
      | cons other others =>
          have hnone := (greedy_nil_iff hpattern).mp h
          have hsome := ((greedy_cons_iff hpattern).mp hothers).1
          cases hnone.symm.trans hsome
  | cons window windows ih =>
      obtain ⟨hwindow, hlater⟩ := (greedy_cons_iff hpattern).mp h
      cases others with
      | nil =>
          have hnone := (greedy_nil_iff hpattern).mp hothers
          cases hnone.symm.trans hwindow
      | cons other others =>
          obtain ⟨hother, hothers⟩ := (greedy_cons_iff hpattern).mp hothers
          cases hother.symm.trans hwindow
          rw [ih hlater hothers]

/-- A window that is found takes at least one instruction, and all in the code. -/
theorem lt_stop_of_findWindow? {window : Window}
    (h : code.findWindow? pattern start = some window) :
    start < window.stop ∧ window.stop ≤ code.length := by
  obtain ⟨hpattern, hfits, hstart, -⟩ := Code.findWindow?_eq_some_iff.mp h
  have hpos := List.length_pos_iff.mpr hpattern
  have hstop := hfits.stop_eq
  exact ⟨by omega, hfits.stop_le⟩

/-- There are greedy windows from every place on, because each leaves less code behind it. -/
theorem exists_greedy (hpattern : pattern ≠ []) (code : Code) (start : Nat) :
    ∃ windows, pattern.Greedy code start windows := by
  induction hleft : code.length - start using Nat.strongRecOn generalizing start with
  | ind left ih =>
      cases hwindow : code.findWindow? pattern start with
      | none => exact ⟨[], (greedy_nil_iff hpattern).mpr hwindow⟩
      | some window =>
          obtain ⟨hlt, hle⟩ := lt_stop_of_findWindow? hwindow
          obtain ⟨windows, hlater⟩ := ih (code.length - window.stop) (by omega) window.stop rfl
          exact ⟨window :: windows, (greedy_cons_iff hpattern).mpr ⟨hwindow, hlater⟩⟩

theorem Greedy.length_le (hpattern : pattern ≠ []) (h : pattern.Greedy code start windows) :
    windows.length ≤ code.length - start := by
  induction windows generalizing start with
  | nil => exact Nat.zero_le _
  | cons window windows ih =>
      obtain ⟨hwindow, hlater⟩ := (greedy_cons_iff hpattern).mp h
      obtain ⟨hlt, hle⟩ := lt_stop_of_findWindow? hwindow
      have hrest := ih hlater
      rw [List.length_cons]
      omega

end Pattern

end CilEdit
