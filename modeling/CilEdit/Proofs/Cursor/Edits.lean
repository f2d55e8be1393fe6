import CilEdit.Proofs.Cursor.Splice

/-! What a single operation does to the code of a cursor. Moving does nothing to it; an edit does one
of three things: nothing beyond the ends, putting a fragment in the place of no instruction or of one,
or removing instructions. None of them loses or doubles anything that is attached while an instruction
is left, none puts an instruction into code that has none, and all keep the code closed if the fragment
fits into it. -/

namespace CilEdit

/-! ### Fragments that fit -/

/-- Whether the fragment attaches labels that are new to the code, each once, and jumps only to labels
of its own or of the code. -/
structure Code.Fits (fragment code : Code) : Prop where
  nodup : fragment.labels.Nodup
  fresh : ∀ label ∈ fragment.labels, label ∉ code.labels
  attached : ∀ label ∈ fragment.targets, label ∈ fragment.labels ∨ label ∈ code.labels

namespace Code

theorem Closed.fits {fragment code : Code} (h : fragment.Closed)
    (hdisjoint : ∀ label ∈ code.labels, label ∉ fragment.labels) : fragment.Fits code where
  nodup := h.nodup
  fresh label hlabel hcode := hdisjoint label hcode hlabel
  attached label hlabel := Or.inl (h.attached label hlabel)

theorem Fits.closed_append {fragment code : Code} (h : fragment.Fits code) (hcode : code.Closed) :
    Closed (code ++ fragment) where
  nodup := by
    rw [labels_append, List.nodup_append]
    refine ⟨hcode.nodup, h.nodup, ?_⟩
    rintro label hlabel other hother rfl
    exact h.fresh label hother hlabel
  attached label hlabel := by
    rw [targets_append, List.mem_append] at hlabel
    rw [labels_append, List.mem_append]
    rcases hlabel with hlabel | hlabel
    · exact Or.inl (hcode.attached label hlabel)
    · exact (h.attached label hlabel).symm

end Code

namespace Cursor

/-! ### Moving -/

section Moving

variable (cursor : Cursor)

theorem code_seekRelative (offset : Int) : (cursor.seekRelative offset).code = cursor.code := by
  unfold seekRelative
  cases cursor.index? <;> rfl

theorem code_seekTo (position : Int) : (cursor.seekTo position).code = cursor.code := rfl

theorem code_seekWindow (pattern : Pattern) (target : Window → Nat) :
    (cursor.seekWindow pattern target).code = cursor.code := by
  unfold seekWindow
  cases cursor.index? with
  | none => rfl
  | some index => cases hwindow : cursor.code.findWindow? pattern index <;> simp only [hwindow]

theorem code_seekBackward (pattern : Pattern) : (cursor.seekBackward pattern).code = cursor.code := by
  unfold seekBackward
  cases cursor.index? with
  | none => rfl
  | some index => cases hwindow : cursor.code.findLastWindow? pattern index <;> simp only [hwindow]

theorem code_seekProducer {above : Nat} {next : Cursor} (h : cursor.seekProducer above = .ok next) :
    next.code = cursor.code := by
  unfold seekProducer at h
  cases hindex : cursor.index? with
  | none =>
      rw [hindex] at h
      cases h
      rfl
  | some index =>
      simp only [hindex] at h
      rcases hproducer : cursor.code.producer? index above with failure | _ | producer <;>
        rw [hproducer] at h <;> cases h <;> rfl

end Moving

/-! ### Editing -/

/-- How an operation at the current instruction changes the code, where `fragment` is what it puts
in. -/
inductive Edits (cursor : Cursor) (fragment : Code) : Code → Prop
  | keep : fragment = [] → cursor.Edits fragment cursor.code
  | splice {index taken : Nat} : cursor.index? = some index → taken = 0 ∨ fragment ≠ [] →
      cursor.Edits fragment (cursor.code.splice index taken fragment)
  | remove {index count : Nat} : cursor.index? = some index → fragment = [] →
      cursor.Edits fragment (cursor.code.removeAt index count)

namespace Edits

variable {cursor : Cursor} {fragment result : Code}

theorem perm {α : Type} {attached : Instruction → List α} (hattached : Instruction.HandsOn attached)
    (h : cursor.Edits fragment result) (hresult : result ≠ []) :
    (result.flatMap attached).Perm
      (cursor.code.flatMap attached ++ fragment.flatMap attached) := by
  cases h with
  | keep hfragment =>
      rw [hfragment, List.flatMap_nil, List.append_nil]
  | splice hindex hheir => exact Code.perm_splice hattached hheir
  | remove hindex hfragment =>
      rw [hfragment, List.flatMap_nil, List.append_nil]
      exact Code.perm_removeAt hattached (lt_of_index?_eq_some hindex) hresult

/-- Where there is no instruction, nothing happens. -/
theorem eq_nil (h : cursor.Edits fragment result) (hcode : cursor.code = []) : result = [] := by
  have hnone : ∀ index, cursor.index? ≠ some index := by
    intro index hindex
    have hlt := lt_of_index?_eq_some hindex
    rw [hcode] at hlt
    exact Nat.not_lt_zero _ hlt
  cases h with
  | keep hfragment => exact hcode
  | splice hindex hheir => exact absurd hindex (hnone _)
  | remove hindex hfragment => exact absurd hindex (hnone _)

theorem closed (h : cursor.Edits fragment result) (hfits : fragment.Fits cursor.code)
    (hcode : cursor.code.Closed) : result.Closed := by
  cases h with
  | keep hfragment => exact hcode
  | splice hindex hheir => exact Code.closed_splice (hfits.closed_append hcode) hheir
  | remove hindex hfragment => exact hcode.removeAt (lt_of_index?_eq_some hindex) _

end Edits

theorem edits_remove (cursor : Cursor) (count : Nat) :
    cursor.Edits [] (cursor.remove count).code := by
  unfold remove
  cases hindex : cursor.index? with
  | none => exact .keep rfl
  | some index => exact .remove hindex rfl

end Cursor

namespace Splice

variable {cursor : Cursor} {index : Nat} {fragment : Code}

theorem edits_perform (h : cursor.index? = some index) (edit : Splice) (fragment : Code) :
    cursor.Edits fragment (edit.perform cursor fragment).code := by
  by_cases hheir : edit.taken = 0 ∨ fragment ≠ []
  · rw [perform_eq h hheir]
    exact .splice h hheir
  · obtain ⟨hreplace, hnil⟩ := not_or.mp hheir
    have hedit : edit = replace := by
      cases edit <;> first | rfl | exact absurd rfl hreplace
    rw [hedit, Decidable.not_not.mp hnil, perform_replace_nil h]
    exact .remove h rfl

/-- Beyond the ends nothing is put in. -/
theorem perform_of_index?_eq_none (h : cursor.index? = none) (edit : Splice) (fragment : Code) :
    edit.perform cursor fragment = cursor := by
  cases edit <;>
    simp only [perform, Cursor.insertBefore, Cursor.insertInPlace, Cursor.replace, h]

theorem closed_perform (h : cursor.index? = some index) (hcode : cursor.code.Closed)
    (hfragment : fragment.Closed) (hdisjoint : ∀ label ∈ cursor.code.labels, label ∉ fragment.labels)
    (edit : Splice) : (edit.perform cursor fragment).code.Closed :=
  (edit.edits_perform h fragment).closed (hfragment.fits hdisjoint) hcode

end Splice

end CilEdit
