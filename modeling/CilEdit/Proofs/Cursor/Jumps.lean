import CilEdit.Proofs.Cursor.Attached

/-! Where jumps lead. A label leads to the first instruction that it is attached to, and code is
closed when every label is attached once at most and every jump target is attached somewhere. Taking
a run of instructions out of some code and putting others in its place moves the destination of a
label with its instruction, provided that both sides agree on where the label stands. -/

namespace CilEdit

namespace Code

/-- The index of the first instruction that the label is attached to. -/
def destination? (code : Code) (label : Label) : Option Nat :=
  code.findIdx? fun instruction => decide (label ∈ instruction.labels)

/-- All jump targets in order. -/
def targets (code : Code) : List Label := code.flatMap Instruction.targets

/-- Where the jump targets of the instruction at `index` lead, in order. -/
def jumps (code : Code) (index : Nat) : List (Option Nat) :=
  match code[index]? with
  | none => []
  | some instruction => instruction.targets.map code.destination?

/-- Whether every label is attached once at most and every jump target is attached. -/
structure Closed (code : Code) : Prop where
  nodup : code.labels.Nodup
  attached : ∀ label ∈ code.targets, label ∈ code.labels

instance : DecidablePred Closed := fun code =>
  decidable_of_iff (code.labels.Nodup ∧ ∀ label ∈ code.targets, label ∈ code.labels)
    ⟨fun h => ⟨h.1, h.2⟩, fun h => ⟨h.nodup, h.attached⟩⟩

/-! ### Labels and targets of parts -/

theorem labels_append (code rest : Code) : labels (code ++ rest) = code.labels ++ labels rest :=
  List.flatMap_append

theorem targets_append (code rest : Code) : targets (code ++ rest) = code.targets ++ targets rest :=
  List.flatMap_append

theorem targets_bequeathFirst (code : Code) (labels : List Label) (markers : List Marker) :
    Code.targets (code.bequeathFirst labels markers) = code.targets := by
  cases code <;> rfl

theorem length_bequeathFirst (code : Code) (labels : List Label) (markers : List Marker) :
    (code.bequeathFirst labels markers).length = code.length := by
  cases code <;> rfl

theorem bequeathFirst_nil (code : Code) : code.bequeathFirst [] [] = code := by
  cases code <;> rfl

theorem targets_bequeathLast (code : Code) (labels : List Label) (markers : List Marker) :
    Code.targets (code.bequeathLast labels markers) = code.targets := by
  fun_induction bequeathLast labels markers code with
  | case1 => rfl
  | case2 heir => rfl
  | case3 instruction rest hrest ih => exact congrArg (instruction.targets ++ ·) ih

theorem targets_removeAt (code : Code) (index count : Nat) :
    (code.removeAt index count).targets =
      Code.targets (code.take index) ++ Code.targets (code.drop (index + count)) := by
  by_cases h : index + count < code.length
  · rw [removeAt_of_lt h, targets_append, targets_bequeathFirst]
  · have hle := Nat.le_of_not_lt h
    rw [removeAt_of_le hle, targets_bequeathLast, List.drop_eq_nil_of_le hle]
    exact (List.append_nil _).symm

/-! ### Destinations -/

theorem destination?_eq_none_iff {code : Code} {label : Label} :
    code.destination? label = none ↔ label ∉ code.labels := by
  simp [destination?, labels]

theorem destination?_isSome_iff {code : Code} {label : Label} :
    (code.destination? label).isSome ↔ label ∈ code.labels := by
  rw [Option.isSome_iff_ne_none, Ne, destination?_eq_none_iff, Decidable.not_not]

theorem destination?_lt {code : Code} {label : Label} {index : Nat}
    (h : code.destination? label = some index) : index < code.length :=
  (List.findIdx?_eq_some_iff_getElem.mp h).1

theorem destination?_append (code rest : Code) (label : Label) :
    destination? (code ++ rest) label =
      (code.destination? label).or ((rest.destination? label).map (· + code.length)) :=
  List.findIdx?_append

theorem destination?_bequeathFirst_of_mem {code : Code} (h : code ≠ []) {labels : List Label}
    {label : Label} (hlabel : label ∈ labels) (markers : List Marker) :
    destination? (code.bequeathFirst labels markers) label = some 0 := by
  cases code with
  | nil => exact absurd rfl h
  | cons heir rest =>
      simp [bequeathFirst, destination?, Instruction.inherit, List.findIdx?_cons, hlabel]

theorem destination?_bequeathFirst_of_not_mem {labels : List Label} {label : Label}
    (h : label ∉ labels) (code : Code) (markers : List Marker) :
    destination? (code.bequeathFirst labels markers) label = code.destination? label := by
  cases code with
  | nil => rfl
  | cons heir rest =>
      simp [bequeathFirst, destination?, Instruction.inherit, List.findIdx?_cons, h]

/-- Where an index goes when as many instructions as `taken` from `start` on make room for as many
as `put`. -/
def shift (start taken put index : Nat) : Nat :=
  if index < start + taken then index else index + put - taken

/-- What stands before an insertion keeps its index. -/
theorem shift_of_lt {start index : Nat} (h : index < start) (put : Nat) :
    shift start 0 put index = index := if_pos h

/-- What stands behind an insertion moves by its length. -/
theorem shift_of_le {start index : Nat} (h : start ≤ index) (put : Nat) :
    shift start 0 put index = index + put := by
  rw [shift, if_neg (by omega), Nat.sub_zero]

section Parts

variable {old new : Code} {label : Label}

/-- A label that stands at the same place in the old part and in the new one moves with its
instruction. -/
theorem destination?_exchange (h : new.destination? label = old.destination? label)
    (left right : Code) :
    destination? (left ++ new ++ right) label =
      (destination? (left ++ old ++ right) label).map
        (shift left.length old.length new.length) := by
  rw [destination?_append, destination?_append, destination?_append, destination?_append, h]
  cases hleft : left.destination? label with
  | some index =>
      have hlt := destination?_lt hleft
      simp only [Option.some_or, Option.map_some, shift, Option.some_inj]
      rw [if_pos (by omega)]
  | none =>
      cases hold : old.destination? label with
      | some index =>
          have hlt := destination?_lt hold
          simp only [Option.none_or, Option.some_or, Option.map_some, shift, Option.some_inj]
          rw [if_pos (by omega)]
      | none =>
          cases right.destination? label with
          | none => rfl
          | some index =>
              simp only [Option.map_none, Option.none_or, Option.map_some, List.length_append,
                shift, Option.some_inj]
              rw [if_neg (by omega)]
              omega

/-- A label that only the new part has leads there. -/
theorem destination?_of_mem_new {left : Code} (hleft : label ∉ left.labels)
    (hnew : label ∈ new.labels) (right : Code) :
    destination? (left ++ new ++ right) label =
      (new.destination? label).map (left.length + ·) := by
  rw [destination?_append, destination?_append, destination?_eq_none_iff.mpr hleft]
  cases hindex : new.destination? label with
  | none => exact absurd hnew (destination?_eq_none_iff.mp hindex)
  | some index =>
      simp only [Option.map_some, Option.none_or, Option.some_or, Nat.add_comm]

theorem getElem?_exchange (left old : Code) {index : Nat}
    (h : index < left.length ∨ left.length + old.length ≤ index) (new right : Code) :
    (left ++ new ++ right)[shift left.length old.length new.length index]? =
      (left ++ old ++ right)[index]? := by
  unfold shift
  rcases h with h | h
  · rw [if_pos (by omega), List.append_assoc, List.append_assoc, List.getElem?_append_left h,
      List.getElem?_append_left h]
  · rw [if_neg (by omega), List.getElem?_append_right (by rw [List.length_append]; omega),
      List.getElem?_append_right (by rw [List.length_append]; omega), List.length_append,
      List.length_append]
    congr 1
    omega

end Parts

/-! ### Closed code -/

theorem Closed.of_perm {code result : Code} (h : code.Closed)
    (hlabels : result.labels.Perm code.labels)
    (htargets : ∀ label ∈ result.targets, label ∈ code.targets) : result.Closed where
  nodup := hlabels.nodup_iff.mpr h.nodup
  attached label hlabel := hlabels.mem_iff.mpr (h.attached label (htargets label hlabel))

theorem Closed.nil : Closed [] := ⟨List.nodup_nil, fun _ hmem => (nomatch hmem)⟩

/-- Removing instructions keeps code closed, since the labels go to an instruction that stays. -/
theorem Closed.removeAt {code : Code} (h : code.Closed) {index : Nat} (hindex : index < code.length)
    (count : Nat) : (code.removeAt index count).Closed := by
  by_cases hleft : code.removeAt index count = []
  · rw [hleft]
    exact Closed.nil
  · apply h.of_perm (perm_removeAt Instruction.handsOn_labels hindex hleft)
    intro label hlabel
    rw [targets_removeAt, List.mem_append] at hlabel
    rcases hlabel with hlabel | hlabel
    · exact mem_flatMap_of_mem_take hlabel
    · exact mem_flatMap_of_mem_drop hlabel

end Code

end CilEdit
