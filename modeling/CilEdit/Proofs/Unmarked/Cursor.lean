import CilEdit.Cursor.Log
import CilEdit.Proofs.Unmarked.Answers

/-! Cursors in code without its exception region markers. Every operation of a cursor commutes with
taking the markers off: the edits move markers from instruction to instruction, but where they go and
what else changes does not depend on them. The log does not show them either. -/

namespace CilEdit

namespace Code

theorem unmarked_append (left right : Code) :
    unmarked (left ++ right) = unmarked left ++ unmarked right := List.map_append

theorem unmarked_take (code : Code) (count : Nat) :
    unmarked (code.take count) = code.unmarked.take count := List.map_take

theorem unmarked_drop (code : Code) (count : Nat) :
    unmarked (code.drop count) = code.unmarked.drop count := List.map_drop

theorem labels_unmarked (code : Code) : code.unmarked.labels = code.labels :=
  List.flatMap_map ..

theorem markers_unmarked (code : Code) : code.unmarked.markers = [] := by
  rw [markers, unmarked, List.flatMap_map]
  exact List.flatMap_eq_nil_iff.mpr fun _ _ => rfl

theorem isEmpty_unmarked (code : Code) : code.unmarked.isEmpty = code.isEmpty := by
  cases code <;> rfl

/-- The heir gets labels and markers, and only the labels are left without markers. -/
theorem unmarked_bequeathFirst (labels : List Label) (markers : List Marker) (code : Code) :
    (code.bequeathFirst labels markers).unmarked = code.unmarked.bequeathFirst labels [] := by
  cases code <;> rfl

theorem unmarked_bequeathLast (labels : List Label) (markers : List Marker) (code : Code) :
    (code.bequeathLast labels markers).unmarked = code.unmarked.bequeathLast labels [] := by
  induction code with
  | nil => rfl
  | cons instruction rest ih =>
      cases rest with
      | nil => rfl
      | cons next rest =>
          rw [bequeathLast, unmarked_cons, ih]
          · rfl
          · rintro ⟨⟩

theorem unmarked_insertAt (code : Code) (index : Nat) (fragment : Code) :
    (code.insertAt index fragment).unmarked = code.unmarked.insertAt index fragment.unmarked := by
  rw [insertAt, insertAt, unmarked_append, unmarked_append, unmarked_take, unmarked_drop]

theorem unmarked_removeAt (code : Code) (index count : Nat) :
    (code.removeAt index count).unmarked = code.unmarked.removeAt index count := by
  simp only [removeAt, ← unmarked_take, ← unmarked_drop, labels_unmarked, markers_unmarked,
    isEmpty_unmarked]
  split
  · exact unmarked_bequeathLast ..
  · rw [unmarked_append, unmarked_bequeathFirst]

theorem unmarked_replaceAt (code : Code) (index : Nat) (fragment : Code) :
    (code.replaceAt index fragment).unmarked = code.unmarked.replaceAt index fragment.unmarked := by
  simp only [replaceAt, ← unmarked_take, ← unmarked_drop, labels_unmarked, markers_unmarked,
    unmarked_append, unmarked_bequeathFirst]

theorem unmarked_modify {change other : Instruction → Instruction}
    (h : ∀ instruction, (change instruction).unmarked = other instruction.unmarked) (code : Code)
    (index : Nat) : unmarked (code.modify index change) = code.unmarked.modify index other := by
  induction code generalizing index with
  | nil => cases index <;> rfl
  | cons instruction code ih =>
      cases index with
      | zero => exact congrArg (· :: unmarked code) (h instruction)
      | succ index => exact congrArg (instruction.unmarked :: ·) (ih index)

end Code

namespace Cursor

/-- The cursor in the code without its markers. -/
def unmarked (cursor : Cursor) : Cursor :=
  ⟨cursor.code.unmarked, cursor.position, cursor.lastMatch.map Window.unmarked⟩

variable (cursor : Cursor)

theorem code_unmarked : cursor.unmarked.code = cursor.code.unmarked := rfl

theorem length_unmarked : cursor.unmarked.length = cursor.length := cursor.code.length_unmarked

theorem index?_unmarked : cursor.unmarked.index? = cursor.index? := by
  rw [index?, index?, length_unmarked]
  rfl

theorem isValid_unmarked : cursor.unmarked.isValid = cursor.isValid := by
  rw [isValid, isValid, index?_unmarked]

theorem current?_unmarked : cursor.unmarked.current? = cursor.current?.map Instruction.unmarked := by
  rw [current?, current?, index?_unmarked]
  cases cursor.index? with
  | none => rfl
  | some index => exact List.getElem?_map

theorem stackType_unmarked (method : Method) (above : Nat) :
    cursor.unmarked.stackType method above = cursor.stackType method above := by
  rw [stackType, stackType, index?_unmarked]
  cases cursor.index? with
  | none => rfl
  | some index => exact cursor.code.stackType_unmarked method index above

/-! ### Moving -/

theorem unmarked_seekRelative (offset : Int) :
    (cursor.seekRelative offset).unmarked = cursor.unmarked.seekRelative offset := by
  rw [seekRelative, seekRelative, index?_unmarked, length_unmarked]
  cases cursor.index? <;> rfl

theorem unmarked_seekTo (position : Int) :
    (cursor.seekTo position).unmarked = cursor.unmarked.seekTo position := by
  rw [seekTo, seekTo, length_unmarked]
  rfl

section Search

variable {pattern : Pattern} (h : pattern.Blind)

include h

theorem unmarked_seekWindow {target : Window → Nat}
    (htarget : ∀ window, target window.unmarked = target window) :
    (cursor.seekWindow pattern target).unmarked = cursor.unmarked.seekWindow pattern target := by
  rw [seekWindow, seekWindow, index?_unmarked, length_unmarked]
  cases cursor.index? with
  | none => rfl
  | some index =>
      have hwindow : cursor.unmarked.code.findWindow? pattern index =
        (cursor.code.findWindow? pattern index).map Window.unmarked :=
        cursor.code.findWindow?_unmarked h index
      simp only [hwindow]
      cases cursor.code.findWindow? pattern index with
      | none => rfl
      | some window => simp only [Option.map_some, unmarked, htarget]

theorem unmarked_seekForward :
    (cursor.seekForward pattern).unmarked = cursor.unmarked.seekForward pattern :=
  cursor.unmarked_seekWindow h fun _ => rfl

theorem unmarked_seekForwardToEnd :
    (cursor.seekForwardToEnd pattern).unmarked = cursor.unmarked.seekForwardToEnd pattern :=
  cursor.unmarked_seekWindow h fun _ => rfl

theorem unmarked_seekBackward :
    (cursor.seekBackward pattern).unmarked = cursor.unmarked.seekBackward pattern := by
  rw [seekBackward, seekBackward, index?_unmarked]
  cases cursor.index? with
  | none => rfl
  | some index =>
      have hwindow : cursor.unmarked.code.findLastWindow? pattern index =
        (cursor.code.findLastWindow? pattern index).map Window.unmarked :=
        cursor.code.findLastWindow?_unmarked h index
      simp only [hwindow]
      cases cursor.code.findLastWindow? pattern index <;> rfl

end Search

theorem unmarked_seekProducer (above : Nat) :
    cursor.unmarked.seekProducer above = (cursor.seekProducer above).map unmarked := by
  rw [seekProducer, seekProducer, index?_unmarked]
  cases cursor.index? with
  | none => rfl
  | some index =>
      have hproducer : cursor.unmarked.code.producer? index above =
        cursor.code.producer? index above := cursor.code.producer?_unmarked index above
      simp only [hproducer]
      rcases cursor.code.producer? index above with failure | _ | producer <;> rfl

/-! ### Edits -/

theorem unmarked_insertBefore (fragment : Code) :
    (cursor.insertBefore fragment).unmarked = cursor.unmarked.insertBefore fragment.unmarked := by
  rw [insertBefore, insertBefore, index?_unmarked, Code.length_unmarked]
  cases cursor.index? with
  | none => rfl
  | some index => simp only [unmarked, Code.unmarked_insertAt]

theorem unmarked_insertInPlace (fragment : Code) :
    (cursor.insertInPlace fragment).unmarked = cursor.unmarked.insertInPlace fragment.unmarked := by
  rw [insertInPlace, insertInPlace, index?_unmarked]
  cases cursor.index? with
  | none => rfl
  | some index => simp only [unmarked, Code.unmarked_insertAt]

theorem unmarked_remove (count : Nat) :
    (cursor.remove count).unmarked = cursor.unmarked.remove count := by
  rw [remove, remove, index?_unmarked]
  cases cursor.index? with
  | none => rfl
  | some index => simp only [unmarked, Code.unmarked_removeAt]

theorem unmarked_replace (fragment : Code) :
    (cursor.replace fragment).unmarked = cursor.unmarked.replace fragment.unmarked := by
  rw [replace.eq_def, replace.eq_def, index?_unmarked]
  cases cursor.index? with
  | none => rfl
  | some index =>
      cases fragment with
      | nil => exact cursor.unmarked_remove 1
      | cons heir rest =>
          simp only [Code.unmarked_cons, unmarked, Code.unmarked_replaceAt]

/-- A change that does not look at markers changes the same but for markers. -/
theorem unmarked_modifyCurrent {change : Instruction → Instruction}
    (h : ∀ instruction : Instruction,
      (change instruction.unmarked).unmarked = (change instruction).unmarked) :
    (cursor.modifyCurrent change).unmarked = cursor.unmarked.modifyCurrent fun instruction =>
      (change instruction.unmarked).unmarked := by
  rw [modifyCurrent, modifyCurrent, index?_unmarked]
  cases cursor.index? with
  | none => rfl
  | some index =>
      have hmodify : Code.unmarked (cursor.code.modify index change) =
          cursor.code.unmarked.modify index fun instruction =>
            (change instruction.unmarked).unmarked :=
        Code.unmarked_modify (fun instruction => (h instruction).symm) cursor.code index
      simp only [unmarked, hmodify]

/-! ### The log -/

theorem logAt_unmarked (entries : Nat → List LogEntry) :
    cursor.unmarked.logAt entries = cursor.logAt entries := by
  rw [logAt, logAt, index?_unmarked]

theorem seekForwardLog_unmarked (pattern : Pattern) (after : Cursor) :
    seekForwardLog pattern cursor.unmarked after.unmarked = seekForwardLog pattern cursor after := by
  rw [seekForwardLog, seekForwardLog, logAt_unmarked]
  congr 1
  funext index
  cases hmatch : after.lastMatch <;> simp only [unmarked, hmatch] <;> rfl

theorem seekBackwardLog_unmarked (pattern : Pattern) (after : Cursor) :
    seekBackwardLog pattern cursor.unmarked after.unmarked =
      seekBackwardLog pattern cursor after := by
  rw [seekBackwardLog, seekBackwardLog, logAt_unmarked]
  congr 1
  funext index
  cases hmatch : after.lastMatch <;> simp only [unmarked, hmatch] <;> rfl

theorem seekProducerLog_unmarked (above : Nat) (after : Cursor) :
    seekProducerLog above cursor.unmarked after.unmarked = seekProducerLog above cursor after :=
  cursor.logAt_unmarked _

theorem insertBeforeLog_unmarked (fragment : Code) (after : Cursor) :
    insertBeforeLog fragment.unmarked cursor.unmarked after.unmarked =
      insertBeforeLog fragment cursor after := by
  rw [insertBeforeLog, insertBeforeLog, logAt_unmarked, Code.length_unmarked]

theorem insertInPlaceLog_unmarked (fragment : Code) (after : Cursor) :
    insertInPlaceLog fragment.unmarked cursor.unmarked after.unmarked =
      insertInPlaceLog fragment cursor after := by
  rw [insertInPlaceLog, insertInPlaceLog, logAt_unmarked, Code.length_unmarked]

theorem removeLog_unmarked (after : Cursor) :
    removeLog cursor.unmarked after.unmarked = removeLog cursor after := by
  have hlabels : cursor.unmarked.code.labels = cursor.code.labels := Code.labels_unmarked _
  have hempty : after.unmarked.code.isEmpty = after.code.isEmpty := Code.isEmpty_unmarked _
  rw [removeLog, removeLog, logAt_unmarked]
  simp only [hlabels, hempty, length_unmarked]

theorem replaceLog_unmarked (fragment : Code) (after : Cursor) :
    replaceLog fragment.unmarked cursor.unmarked after.unmarked =
      replaceLog fragment cursor after := by
  cases fragment with
  | nil => exact cursor.removeLog_unmarked after
  | cons heir rest =>
      rw [replaceLog.eq_def, replaceLog.eq_def, Code.unmarked_cons, current?_unmarked]
      cases cursor.current? with
      | none => rfl
      | some current =>
          simp only [Option.map_some, logAt_unmarked, List.length_cons, Code.length_unmarked]
          rfl

end Cursor

end CilEdit
