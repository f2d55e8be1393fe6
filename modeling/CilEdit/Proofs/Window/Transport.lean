import CilEdit.Window

/-! Searches that go the same way. When one pattern has a window in some code wherever another one has
its window in other code, a search for the one passes the places that a search for the other passes, and
it stops with the window that belongs to the other's. The instructions may differ from each other, and
the indices by an offset. -/

namespace CilEdit

namespace Pattern

section

variable {first second : Pattern} (change : Instruction → Instruction) (move : Window → Window)
  (offset : Nat)
  (h : ∀ index code, second.windowAt? (index + offset) (code.map change) =
    (first.windowAt? index code).map move)

include h

theorem firstFrom?_transport (index : Nat) (code : Code) :
    second.firstFrom? (index + offset) (code.map change) =
      (first.firstFrom? index code).map move := by
  induction code generalizing index with
  | nil => rfl
  | cons instruction code ih =>
      have hwindow := h index (instruction :: code)
      rw [List.map_cons] at hwindow ⊢
      rw [firstFrom?, firstFrom?, hwindow, Nat.add_right_comm, ih]
      cases first.windowAt? index (instruction :: code) <;> rfl

theorem lastFrom?_transport (limit index : Nat) (code : Code) :
    second.lastFrom? (limit + offset) (index + offset) (code.map change) =
      (first.lastFrom? limit index code).map move := by
  induction code generalizing index with
  | nil => rfl
  | cons instruction code ih =>
      have hwindow := h index (instruction :: code)
      rw [List.map_cons] at hwindow ⊢
      rw [lastFrom?, lastFrom?, hwindow, Nat.add_right_comm, ih]
      by_cases hlimit : index < limit
      · rw [if_pos hlimit, if_pos (Nat.add_lt_add_right hlimit offset)]
        cases first.lastFrom? limit (index + 1) code <;> rfl
      · rw [if_neg hlimit, if_neg (mt Nat.lt_of_add_lt_add_right hlimit)]
        rfl

end

end Pattern

namespace Code

section

variable {first second : Pattern} (change : Instruction → Instruction) (move : Window → Window)
  (hempty : second.isEmpty = first.isEmpty)
  (h : ∀ index code, second.windowAt? index (code.map change) =
    (first.windowAt? index code).map move) (code : Code)

include hempty h

theorem findWindow?_transport (start : Nat) :
    findWindow? (code.map change) second start = (code.findWindow? first start).map move := by
  rw [findWindow?, findWindow?, hempty, ← List.map_drop]
  split
  · rfl
  · exact Pattern.firstFrom?_transport change move 0 h start (code.drop start)

theorem findLastWindow?_transport (limit : Nat) :
    findLastWindow? (code.map change) second limit =
      (code.findLastWindow? first limit).map move := by
  rw [findLastWindow?, findLastWindow?, hempty]
  split
  · rfl
  · exact Pattern.lastFrom?_transport change move 0 h limit 0 code

end

end Code

/-! ### Searches in the rest of the code -/

/-- The same window in code that stands `offset` places farther on. -/
def Window.offset (offset : Nat) (window : Window) : Window :=
  { window with start := window.start + offset, stop := window.stop + offset }

theorem Pattern.windowAt?_offset (pattern : Pattern) (offset index : Nat) (code : Code) :
    pattern.windowAt? (index + offset) code =
      (pattern.windowAt? index code).map (Window.offset offset) := by
  rw [windowAt?, windowAt?, Option.map_map]
  cases pattern.check? code with
  | none => rfl
  | some captures =>
      rw [Option.map_some, Option.map_some, Function.comp_apply, Window.offset,
        Nat.add_right_comm]

/-- The search forward sees only what stands at the start or behind it. -/
theorem Code.findWindow?_eq_offset (code : Code) (pattern : Pattern) (start : Nat) :
    code.findWindow? pattern start =
      (Code.findWindow? (code.drop start) pattern 0).map (Window.offset start) := by
  have hwindow : ∀ index (rest : Code), pattern.windowAt? (index + start) (rest.map id) =
      (pattern.windowAt? index rest).map (Window.offset start) := by
    intro index rest
    rw [List.map_id]
    exact pattern.windowAt?_offset start index rest
  have hfirst := Pattern.firstFrom?_transport id _ start hwindow 0 (code.drop start)
  rw [List.map_id, Nat.zero_add] at hfirst
  rw [findWindow?, findWindow?, List.drop_zero, hfirst]
  split <;> rfl

end CilEdit
