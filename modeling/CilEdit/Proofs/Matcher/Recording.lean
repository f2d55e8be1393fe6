import CilEdit.Proofs.Window.Transport

/-! Recording only observes. Whether a matcher accepts an instruction is a Boolean combination of the
conditions in it, whatever is recorded on the way, so the same matcher without its recordings accepts the
same instructions and a search finds its windows in the same places. What is recorded belongs to the
accepting side alone: nothing comes out of a refusal or from under a negation, an alternative records
what its first accepting side does, and recordings around a matcher add their values from the inside
out. -/

namespace CilEdit

namespace Matcher

/-! ### Acceptance -/

section Accepts

variable (matcher left right : Matcher) (name : String) (instruction : Instruction)

@[simp] theorem accepts_not : (not matcher).accepts instruction = !matcher.accepts instruction := by
  rw [accepts, accepts, check?]
  cases matcher.check? instruction <;> rfl

@[simp] theorem accepts_or :
    (or left right).accepts instruction =
      (left.accepts instruction || right.accepts instruction) := by
  rw [accepts, accepts, accepts, check?]
  cases left.check? instruction <;> rfl

@[simp] theorem accepts_capture :
    (capture matcher name).accepts instruction = matcher.accepts instruction := by
  rw [accepts, accepts, check?, Option.isSome_map]

@[simp] theorem accepts_captureOperand :
    (captureOperand matcher name).accepts instruction = matcher.accepts instruction := by
  rw [accepts, accepts, check?, Option.isSome_map]

/-! ### What is recorded -/

theorem captures_of_refused {matcher : Matcher} {instruction : Instruction}
    (h : matcher.accepts instruction = false) : matcher.captures instruction = [] := by
  rw [accepts, Option.isSome_eq_false_iff, Option.isNone_iff_eq_none] at h
  rw [captures, h, Option.getD_none]

theorem captures_not : (not matcher).captures instruction = [] := by
  rw [captures, check?]
  cases matcher.check? instruction <;> rfl

theorem captures_or :
    (or left right).captures instruction =
      if left.accepts instruction then left.captures instruction
      else right.captures instruction := by
  rw [captures, captures, captures, accepts, check?]
  cases left.check? instruction <;> rfl

end Accepts

/-- The finding with one more value, if the instruction is accepted. -/
def Finding.record (finding : Finding) (entry : String × Capture) : Finding :=
  if finding.accepted then { finding with captures := finding.captures ++ [entry] } else finding

/-- The check with the two parts of its finding kept apart. -/
def finding : Matcher → Instruction → Finding
  | .predicate _ accepts, instruction => ⟨accepts instruction, []⟩
  | .custom _ check, instruction =>
    match check instruction with
    | some captures => ⟨true, captures⟩
    | none => ⟨false, []⟩
  | .oneOf opcodes, instruction => ⟨opcodes.contains instruction.opcode, []⟩
  | .exactly opcode operand, instruction =>
    ⟨instruction.opcode == opcode && instruction.operand == operand, []⟩
  | .not inner, instruction => ⟨!(inner.finding instruction).accepted, []⟩
  | .or left right, instruction =>
    let found := left.finding instruction
    if found.accepted then found else right.finding instruction
  | .capture inner name, instruction =>
    (inner.finding instruction).record (name, .instruction instruction)
  | .captureOperand inner name, instruction =>
    (inner.finding instruction).record (name, .ofOperand instruction)

/-- A recording around a matcher, of the instruction or of what its operand means. -/
inductive Recorder where
  | instruction (name : String)
  | operand (name : String)

/-- The matcher with the recording around it. -/
def Recorder.around (inner : Matcher) : Recorder → Matcher
  | .instruction name => .capture inner name
  | .operand name => .captureOperand inner name

/-- The value that the recording adds. -/
def Recorder.entry (source : Instruction) : Recorder → String × Capture
  | .instruction name => (name, .instruction source)
  | .operand name => (name, .ofOperand source)

/-- The matcher with recordings around it, the first one innermost. -/
def recorded (matcher : Matcher) (recorders : List Recorder) : Matcher :=
  recorders.foldl Recorder.around matcher

section Recorder

variable (matcher : Matcher) (instruction : Instruction) (recorder : Recorder)

theorem accepts_around :
    (recorder.around matcher).accepts instruction = matcher.accepts instruction := by
  cases recorder with
  | instruction name => exact accepts_capture matcher name instruction
  | operand name => exact accepts_captureOperand matcher name instruction

theorem captures_around :
    (recorder.around matcher).captures instruction =
      if matcher.accepts instruction then matcher.captures instruction ++ [recorder.entry instruction]
      else [] := by
  have hcheck : (recorder.around matcher).check? instruction =
      (matcher.check? instruction).map fun captures => captures ++ [recorder.entry instruction] := by
    cases recorder <;> rfl
  rw [captures, captures, accepts, hcheck]
  cases matcher.check? instruction <;> rfl

theorem accepts_recorded (recorders : List Recorder) :
    (matcher.recorded recorders).accepts instruction = matcher.accepts instruction := by
  induction recorders generalizing matcher with
  | nil => rfl
  | cons recorder recorders ih =>
      rw [recorded, List.foldl_cons]
      exact (ih (recorder.around matcher)).trans (accepts_around matcher instruction recorder)

/-- Recordings around a matcher add their values from the inside out. -/
theorem captures_recorded (recorders : List Recorder) :
    (matcher.recorded recorders).captures instruction =
      if matcher.accepts instruction then
        matcher.captures instruction ++ recorders.map (Recorder.entry instruction)
      else [] := by
  induction recorders generalizing matcher with
  | nil =>
      by_cases haccepts : matcher.accepts instruction = true
      · rw [if_pos haccepts, List.map_nil, List.append_nil]
        rfl
      · rw [if_neg haccepts]
        exact captures_of_refused (eq_false_of_ne_true haccepts)
  | cons recorder recorders ih =>
      have haround := ih (recorder.around matcher)
      rw [accepts_around, captures_around] at haround
      rw [recorded, List.foldl_cons]
      refine haround.trans ?_
      by_cases haccepts : matcher.accepts instruction = true
      · rw [if_pos haccepts, if_pos haccepts, if_pos haccepts, List.map_cons, List.append_assoc,
          List.singleton_append]
      · rw [if_neg haccepts, if_neg haccepts]

/-- The parts of a finding are what acceptance and recording give on their own. -/
theorem finding_eq :
    matcher.finding instruction =
      ⟨matcher.accepts instruction, matcher.captures instruction⟩ := by
  have hrecord : ∀ (inner : Matcher) (recorder : Recorder),
      inner.finding instruction = ⟨inner.accepts instruction, inner.captures instruction⟩ →
      (inner.finding instruction).record (recorder.entry instruction) =
        ⟨(recorder.around inner).accepts instruction,
          (recorder.around inner).captures instruction⟩ := by
    intro inner recorder hinner
    rw [hinner, accepts_around, captures_around, Finding.record]
    by_cases haccepts : inner.accepts instruction = true
    · rw [if_pos haccepts, if_pos haccepts]
    · rw [if_neg haccepts, if_neg haccepts,
        captures_of_refused (eq_false_of_ne_true haccepts)]
  induction matcher with
  | predicate description holds =>
      rw [finding, accepts, captures, check?]
      cases holds instruction <;> rfl
  | custom description check =>
      rw [finding, accepts, captures, check?]
      cases check instruction <;> rfl
  | oneOf opcodes =>
      rw [finding, accepts, captures, check?]
      cases opcodes.contains instruction.opcode <;> rfl
  | exactly opcode operand =>
      rw [finding, accepts, captures, check?]
      cases instruction.opcode == opcode && instruction.operand == operand <;> rfl
  | not inner ih => rw [finding, ih, accepts_not, captures_not]
  | or left right ihl ihr =>
      rw [finding, ihl, ihr, accepts_or, captures_or]
      cases left.accepts instruction <;> rfl
  | capture inner name ih => exact hrecord inner (.instruction name) ih
  | captureOperand inner name ih => exact hrecord inner (.operand name) ih

end Recorder

/-! ### The matcher without its recordings -/

theorem check?_erase (matcher : Matcher) (instruction : Instruction) :
    matcher.erase.check? instruction = (matcher.check? instruction).map fun _ => [] := by
  induction matcher with
  | predicate description holds =>
      rw [erase, check?]
      cases holds instruction <;> rfl
  | custom description check => rfl
  | oneOf opcodes =>
      rw [erase, check?]
      cases opcodes.contains instruction.opcode <;> rfl
  | exactly opcode operand =>
      rw [erase, check?]
      cases instruction.opcode == opcode && instruction.operand == operand <;> rfl
  | not inner ih =>
      rw [erase, check?, check?, ih]
      cases inner.check? instruction <;> rfl
  | or left right ihl ihr =>
      rw [erase, check?, check?, ihl, ihr]
      cases left.check? instruction <;> rfl
  | capture inner name ih =>
      rw [erase, check?, ih, Option.map_map]
      rfl
  | captureOperand inner name ih =>
      rw [erase, check?, ih, Option.map_map]
      rfl

theorem accepts_erase (matcher : Matcher) (instruction : Instruction) :
    matcher.erase.accepts instruction = matcher.accepts instruction := by
  rw [accepts, accepts, check?_erase, Option.isSome_map]

end Matcher

/-! ### Windows -/

/-- The same window with nothing recorded. -/
def Window.unrecorded (window : Window) : Window := { window with captures := [] }

namespace Pattern

/-- The pattern without its recordings. -/
def erase (pattern : Pattern) : Pattern := pattern.map Matcher.erase

theorem check?_erase (pattern : Pattern) (code : Code) :
    pattern.erase.check? code = (pattern.check? code).map fun _ => [] := by
  induction pattern generalizing code with
  | nil => rfl
  | cons matcher pattern ih =>
      cases code with
      | nil => rfl
      | cons instruction code =>
          rw [erase, List.map_cons, check?, check?, Matcher.check?_erase]
          cases matcher.check? instruction with
          | none => rfl
          | some captures =>
              simp only [Option.map_some]
              rw [← erase, ih]
              cases check? pattern code <;> rfl

theorem windowAt?_erase (pattern : Pattern) (index : Nat) (code : Code) :
    pattern.erase.windowAt? index code = (pattern.windowAt? index code).map Window.unrecorded := by
  rw [windowAt?, windowAt?, check?_erase, Option.map_map, Option.map_map, erase, List.length_map]
  rfl

theorem isEmpty_erase (pattern : Pattern) : pattern.erase.isEmpty = pattern.isEmpty := by
  cases pattern <;> rfl

end Pattern

namespace Code

variable (code : Code) (pattern : Pattern)

/-- The search forward finds its window in the same place. -/
theorem findWindow?_erase (start : Nat) :
    code.findWindow? pattern.erase start =
      (code.findWindow? pattern start).map Window.unrecorded := by
  have htransport := findWindow?_transport id _ pattern.isEmpty_erase
    (fun index rest => by rw [List.map_id]; exact pattern.windowAt?_erase index rest) code start
  rwa [List.map_id] at htransport

/-- The search backward finds its window in the same place. -/
theorem findLastWindow?_erase (limit : Nat) :
    code.findLastWindow? pattern.erase limit =
      (code.findLastWindow? pattern limit).map Window.unrecorded := by
  have htransport := findLastWindow?_transport id _ pattern.isEmpty_erase
    (fun index rest => by rw [List.map_id]; exact pattern.windowAt?_erase index rest) code limit
  rwa [List.map_id] at htransport

end Code

/-- Recording only observes. A matcher accepts what it accepts without its recordings, and a negation or
an alternative what the Boolean operation says. A check that keeps acceptance and recording apart reports
nothing recorded with a refusal; a negation records nothing, an alternative what its left side records if
that one accepts, and recordings around a matcher add their values from the inside out. So both searches
find their windows in the places where they find them without the recordings. -/
theorem recording_only_observes (matcher left right : Matcher) (recorders : List Matcher.Recorder)
    (instruction : Instruction) (pattern : Pattern) (code : Code) (bound : Nat) :
    (matcher.erase.accepts instruction = matcher.accepts instruction ∧
      (matcher.recorded recorders).accepts instruction = matcher.accepts instruction) ∧
    ((Matcher.not matcher).accepts instruction = !matcher.accepts instruction ∧
      (Matcher.or left right).accepts instruction =
        (left.accepts instruction || right.accepts instruction) ∧
      (Matcher.not (.not matcher)).accepts instruction = matcher.accepts instruction ∧
      (Matcher.not (.or left right)).accepts instruction =
        (!left.accepts instruction && !right.accepts instruction) ∧
      (Matcher.or (.not left) (.not right)).accepts instruction =
        !(left.accepts instruction && right.accepts instruction)) ∧
    (matcher.finding instruction =
        ⟨matcher.accepts instruction, matcher.captures instruction⟩ ∧
      (matcher.accepts instruction = false → matcher.captures instruction = []) ∧
      (Matcher.not matcher).captures instruction = [] ∧
      (Matcher.or left right).captures instruction =
        (if left.accepts instruction then left.captures instruction
        else right.captures instruction) ∧
      (matcher.recorded recorders).captures instruction =
        if matcher.accepts instruction then
          matcher.captures instruction ++ recorders.map (Matcher.Recorder.entry instruction)
        else []) ∧
    code.findWindow? pattern.erase bound = (code.findWindow? pattern bound).map Window.unrecorded ∧
    code.findLastWindow? pattern.erase bound =
      (code.findLastWindow? pattern bound).map Window.unrecorded := by
  refine ⟨⟨matcher.accepts_erase instruction, matcher.accepts_recorded instruction recorders⟩,
    ⟨matcher.accepts_not instruction, left.accepts_or right instruction, ?_, ?_, ?_⟩,
    ⟨matcher.finding_eq instruction, Matcher.captures_of_refused, matcher.captures_not instruction,
      left.captures_or right instruction, matcher.captures_recorded instruction recorders⟩,
    code.findWindow?_erase pattern bound, code.findLastWindow?_erase pattern bound⟩
  · rw [Matcher.accepts_not, Matcher.accepts_not, Bool.not_not]
  · rw [Matcher.accepts_not, Matcher.accepts_or, Bool.not_or]
  · rw [Matcher.accepts_or, Matcher.accepts_not, Matcher.accepts_not, Bool.not_and]

/-- A branch that the left side of an alternative refuses to record and the right side records twice. -/
theorem recording_only_observes_branch :
    let branch : Instruction := ⟨.br, .target ⟨9⟩, [], []⟩
    let left : Matcher := .capture (.oneOf [.ret]) "return"
    let right : Matcher := .captureOperand (.capture (.oneOf [.br]) "whole") "target"
    let code : Code := [.make .nop, branch, .make .ret]
    left.accepts branch = false ∧ left.captures branch = [] ∧
      (Matcher.or left right).captures branch =
        [("whole", .instruction branch), ("target", .label ⟨9⟩)] ∧
      (code.findWindow? [.or left right] 0).map Window.unrecorded = some ⟨1, 2, []⟩ ∧
      code.findWindow? [.or (.oneOf [.ret]) (.oneOf [.br])] 0 = some ⟨1, 2, []⟩ := by
  intro branch left right code
  have hrefused : left.accepts branch = false := by decide
  obtain ⟨-, -, ⟨-, hnothing, -, hor, -⟩, hwindow, -⟩ :=
    recording_only_observes left left right [] branch [.or left right] code 0
  obtain ⟨-, -, ⟨-, -, -, -, hrecorded⟩, -⟩ :=
    recording_only_observes (.oneOf [.br]) left right [.instruction "whole", .operand "target"] branch
      [] code 0
  rw [hrefused] at hor
  exact ⟨hrefused, hnothing hrefused, hor.trans hrecorded, rfl, hwindow⟩

end CilEdit
