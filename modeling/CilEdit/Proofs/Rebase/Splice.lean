import CilEdit.Proofs.Cursor.Edits
import CilEdit.Proofs.Rebase.Fresh
import CilEdit.Proofs.Rebase.Injective

/-! Splicing rebased code into the method that it was rebased for. The labels of the fragment are new
to the receiver, since its scope starts behind every label that occurs there. They are those of the
donor mapped injectively, so every jump of the fragment leads where it led in the donor. -/

namespace CilEdit

/-! ### Renamed code -/

namespace Code

theorem mem_labelsInUse_of_mem_labels {code : Code} {label : Label} (h : label ∈ code.labels) :
    label ∈ code.labelsInUse := by
  obtain ⟨instruction, hmem, hlabel⟩ := List.mem_flatMap.mp h
  exact List.mem_flatMap.mpr ⟨instruction, hmem, List.mem_append_left _ hlabel⟩

section Rename

variable {f : Slot → Slot} {g : Label → Label}

theorem labels_map_rename (code : Code) :
    Code.labels (code.map fun instruction => instruction.rename f g) = code.labels.map g := by
  rw [labels, labels, List.flatMap_map, List.map_flatMap]
  rfl

theorem targets_map_rename (code : Code) :
    Code.targets (code.map fun instruction => instruction.rename f g) = code.targets.map g := by
  rw [targets, targets, List.flatMap_map, List.map_flatMap]
  simp only [Instruction.targets_rename]

theorem Closed.map_rename {code : Code} (h : code.Closed) (hg : g.Injective) :
    Closed (code.map fun instruction => instruction.rename f g) where
  nodup := by
    rw [labels_map_rename]
    exact h.nodup.map hg
  attached label hlabel := by
    rw [targets_map_rename] at hlabel
    rw [labels_map_rename]
    obtain ⟨source, hsource, rfl⟩ := List.mem_map.mp hlabel
    exact List.mem_map_of_mem (h.attached source hsource)

theorem destination?_map_rename (code : Code) (hg : g.Injective) (label : Label) :
    destination? (code.map fun instruction => instruction.rename f g) (g label) =
      code.destination? label := by
  unfold destination?
  rw [List.findIdx?_map]
  congr 1
  funext instruction
  simp only [Function.comp_apply, Instruction.labels_rename, List.mem_map_of_injective hg]

theorem jumps_map_rename (code : Code) (hg : g.Injective) (index : Nat) :
    jumps (code.map fun instruction => instruction.rename f g) index = code.jumps index := by
  unfold jumps
  rw [List.getElem?_map]
  cases code[index]? with
  | none => rfl
  | some instruction =>
      simp only [Option.map_some, Instruction.targets_rename, List.map_map]
      apply List.map_congr_left
      intro label _
      exact destination?_map_rename code hg label

/-- Where no label of the donor is mapped to one of the receiver, the labels are disjoint. -/
theorem disjoint_labels_map_rename {receiver donor : Code}
    (h : ∀ label ∈ donor.labelsInUse, g label ∉ receiver.labelsInUse) :
    ∀ label ∈ receiver.labels,
      label ∉ Code.labels (donor.map fun instruction => instruction.rename f g) := by
  intro label hlabel hmem
  rw [labels_map_rename] at hmem
  obtain ⟨source, hsource, rfl⟩ := List.mem_map.mp hmem
  exact h source (mem_labelsInUse_of_mem_labels hsource) (mem_labelsInUse_of_mem_labels hlabel)

end Rename

end Code

/-! ### The splice -/

section Receiver

variable {receiver donor fragment : Code} {method donorMethod : Method}

/-- Code for the scope of a receiver is the donor with its labels mapped injectively to labels that do
not occur in the receiver. -/
theorem exists_rename_of_rebase
    (h : ((Scope.forBody method receiver).rebase donor donorMethod).result = .ok fragment)
    (hlabels : ((Scope.forBody method receiver).rebase donor donorMethod).scope.labels.next ≠
      ⟨4294967295⟩) :
    ∃ (f : Slot → Slot) (g : Label → Label), g.Injective ∧
      (fragment = donor.map fun instruction => instruction.rename f g) ∧
      ∀ label ∈ donor.labelsInUse, g label ∉ receiver.labelsInUse := by
  obtain ⟨g, hg, hlabelMap, hrange, hnext⟩ := exists_labelMap h hlabels
  have hfit : (Scope.firstFreeLabel receiver).id.toNat + donor.labelsInUse.eraseDups.length <
      4294967295 := lt_of_eq_of_lt hnext.symm (toNat_id_lt_of_ne hlabels)
  refine ⟨_, g, hg, (eq_of_rebase h).2.trans (Code.map_rename_congr (fun _ _ => rfl) hlabelMap), ?_⟩
  intro label hlabel hreceiver
  have hbelow := (Scope.behind_firstFreeLabel receiver).toNat_lt hreceiver (Or.inr (by omega))
  have habove : (g label).id.toNat ∈ List.range' (Scope.firstFreeLabel receiver).id.toNat
      donor.labelsInUse.eraseDups.length := by
    have hmem := List.mem_map_of_mem (f := fun label => (g label).id.toNat)
      (List.mem_eraseDups.mpr hlabel)
    rwa [hrange] at hmem
  have hle := (List.mem_range'_1.mp habove).1
  omega

/-- Rebased code that is spliced into its receiver gives closed code if donor and receiver are
closed. A jump of the donor leads to the place of its destination, counted from where the fragment
starts, and a jump of the receiver follows its destination, which for a replaced instruction is the
first instruction of the fragment. -/
theorem splice_rebased {cursor : Cursor} {index : Nat} (edit : Splice)
    (hcode : cursor.code.Closed) (hdonor : donor.Closed) (hindex : cursor.index? = some index)
    (hresult :
      ((Scope.forBody method cursor.code).rebase donor donorMethod).result = .ok fragment)
    (hlabels :
      ((Scope.forBody method cursor.code).rebase donor donorMethod).scope.labels.next ≠
        ⟨4294967295⟩) :
    let result := (edit.perform cursor fragment).code
    let moved := Code.shift index edit.taken donor.length
    result.Closed ∧ fragment.length = donor.length ∧
      (edit.taken = 0 ∨ donor ≠ [] →
        (∀ place instruction, fragment[place]? = some instruction →
          (∃ labels markers,
            result[index + place]? = some (instruction.inherit labels markers)) ∧
          result.jumps (index + place) = (donor.jumps place).map (Option.map (index + ·))) ∧
        ∀ place, place < index ∨ index + edit.taken ≤ place →
          result[moved place]? = cursor.code[place]? ∧
          result.jumps (moved place) = (cursor.code.jumps place).map (Option.map moved)) := by
  intro result moved
  obtain ⟨f, g, hg, hrename, hfresh⟩ := exists_rename_of_rebase hresult hlabels
  have hfragment : fragment.Closed := by
    rw [hrename]
    exact hdonor.map_rename hg
  have hdisjoint : ∀ label ∈ cursor.code.labels, label ∉ fragment.labels := by
    rw [hrename]
    exact Code.disjoint_labels_map_rename hfresh
  have hlength : fragment.length = donor.length := by rw [hrename, List.length_map]
  refine ⟨Splice.closed_perform hindex hcode hfragment hdisjoint edit, hlength, ?_⟩
  intro hdonor'
  have hheir : edit.taken = 0 ∨ fragment ≠ [] := by
    rwa [Ne, ← List.length_eq_zero_iff, hlength, List.length_eq_zero_iff]
  have hfit : index + edit.taken ≤ cursor.code.length := by
    have hlt := Cursor.lt_of_index?_eq_some hindex
    have htaken := edit.taken_le
    omega
  have hsplice : result = cursor.code.splice index edit.taken fragment :=
    Splice.perform_eq hindex hheir
  have hmoved : moved = Code.shift index edit.taken fragment.length := by rw [hlength]
  rw [hsplice, hmoved]
  constructor
  · intro place instruction hplace
    refine ⟨Code.exists_getElem?_splice hfit hplace, ?_⟩
    calc (cursor.code.splice index edit.taken fragment).jumps (index + place)
      _ = (fragment.jumps place).map (Option.map (index + ·)) :=
        Code.jumps_splice_of_fragment hfragment hdisjoint hfit
          (List.getElem?_eq_some_iff.mp hplace).1
      _ = (donor.jumps place).map (Option.map (index + ·)) := by
        rw [hrename, Code.jumps_map_rename donor hg]
  · intro place hplace
    exact ⟨Code.getElem?_splice_of_kept hfit hplace,
      Code.jumps_splice_of_kept hcode hdisjoint hfit edit.taken_le hheir hplace⟩

end Receiver

/-- A loop takes the place of an instruction that the receiver jumps back to. -/
theorem splice_rebased_loop :
    let receiver : Code := [.make .ldcI4_1, ⟨.brfalse, .target ⟨1⟩, [⟨0⟩], []⟩,
      ⟨.br, .target ⟨0⟩, [], []⟩, ⟨.ret, .none, [⟨1⟩], []⟩]
    let donor : Code :=
      [⟨.nop, .none, [⟨7⟩], []⟩, .make .ldloc0, ⟨.brtrue, .target ⟨7⟩, [], []⟩]
    let method : Method := ⟨.object, "Next", ⟨.plain, [], .void⟩, [.int32]⟩
    let cursor : Cursor := ⟨receiver, 1, none⟩
    let rebased := (Scope.forBody method receiver).rebase donor method
    receiver.Closed ∧ donor.Closed ∧ cursor.index? = some 1 ∧
      rebased.scope.labels.next ≠ ⟨4294967295⟩ ∧
      ∃ fragment, rebased.result = .ok fragment ∧
        let result := (Splice.replace.perform cursor fragment).code
        result.Closed ∧ result.jumps 3 = [some 1] ∧ result.jumps 4 = [some 1] := by
  intro receiver donor method cursor rebased
  have hcode : cursor.code.Closed := by decide
  have hdonor : donor.Closed := by decide
  have hindex : cursor.index? = some 1 := by decide
  have hresult : rebased.result = .ok _ := rfl
  have hlabels : rebased.scope.labels.next ≠ ⟨4294967295⟩ := by decide
  obtain ⟨hclosed, -, hjumps⟩ :=
    splice_rebased .replace hcode hdonor hindex hresult hlabels
  obtain ⟨hfragment, hkept⟩ := hjumps (by decide)
  exact ⟨hcode, hdonor, hindex, hlabels, _, hresult, hclosed, (hfragment 2 _ rfl).2,
    (hkept 2 (by decide)).2⟩

end CilEdit
