import CilEdit.Matcher.Catalog
import CilEdit.Proofs.Window.Transport
import Mathlib.Data.List.Forall2

/-! Code without its exception region markers, and the windows in it. A matcher that does not look at
markers accepts the same instructions and records the same values when the markers are taken off, but
for the markers of the instructions that it records. So the searches find their windows in the same
places. All ready-made matchers are of that kind; a matcher can only look at markers through a predicate
or a check of its own. -/

namespace CilEdit

namespace Instruction

/-- The instruction without its markers. -/
def unmarked (instruction : Instruction) : Instruction := { instruction with markers := [] }

/-- Whether two instructions are the same but for their markers. -/
structure Alike (first second : Instruction) : Prop where
  opcode : first.opcode = second.opcode
  operand : first.operand = second.operand
  labels : first.labels = second.labels

theorem unmarked_eq_iff {first second : Instruction} :
    first.unmarked = second.unmarked ↔ first.Alike second := by
  constructor
  · intro h
    injection h with hopcode hoperand hlabels
    exact ⟨hopcode, hoperand, hlabels⟩
  · rintro ⟨hopcode, hoperand, hlabels⟩
    rw [unmarked, unmarked, hopcode, hoperand, hlabels]

end Instruction

namespace Code

/-- The code without its markers. -/
def unmarked (code : Code) : Code := code.map Instruction.unmarked

/-- Whether two pieces of code are the same but for their markers. -/
def Alike (first second : Code) : Prop := List.Forall₂ Instruction.Alike first second

theorem unmarked_eq_iff {first second : Code} :
    first.unmarked = second.unmarked ↔ first.Alike second := by
  simp only [unmarked, Alike, ← List.forall₂_eq_eq_eq, List.forall₂_map_left_iff,
    List.forall₂_map_right_iff, Instruction.unmarked_eq_iff]

theorem unmarked_cons (instruction : Instruction) (code : Code) :
    unmarked (instruction :: code) = instruction.unmarked :: code.unmarked := rfl

@[simp] theorem length_unmarked (code : Code) : code.unmarked.length = code.length :=
  List.length_map _

end Code

/-! ### What is recorded -/

/-- The recorded value without markers. -/
def Capture.unmarked : Capture → Capture
  | .instruction found => .instruction found.unmarked
  | capture => capture

/-- The recorded values without markers. -/
def Captures.unmarked (captures : Captures) : Captures :=
  captures.map fun entry => (entry.1, entry.2.unmarked)

theorem Captures.find?_unmarked (captures : Captures) (name : String) :
    captures.unmarked.find? name = (captures.find? name).map Capture.unmarked := by
  induction captures with
  | nil => rfl
  | cons entry captures ih =>
      rw [unmarked, List.map_cons, find?, find?, List.lookup_cons, List.lookup_cons]
      split
      · rfl
      · exact ih

/-- Operands hold no markers. -/
theorem Capture.unmarked_ofOperand (instruction : Instruction) :
    (ofOperand instruction).unmarked = ofOperand instruction.unmarked := by
  have hplain : (ofPlainOperand instruction.operand).unmarked =
      ofPlainOperand instruction.operand := by
    cases instruction.operand <;> rfl
  have hlocal : instruction.unmarked.localSlot? = instruction.localSlot? := rfl
  have hargument : instruction.unmarked.argumentSlot? = instruction.argumentSlot? := rfl
  rw [ofOperand, ofOperand, hlocal, hargument]
  cases instruction.localSlot? with
  | some slot => rfl
  | none =>
      cases instruction.argumentSlot? with
      | some slot => rfl
      | none => exact hplain

/-- The window with what was recorded in it without markers. -/
def Window.unmarked (window : Window) : Window :=
  { window with captures := window.captures.unmarked }

/-! ### Matchers -/

namespace Matcher

/-- Whether the matcher does not look at markers. -/
def Blind : Matcher → Prop
  | .predicate _ accepts => ∀ instruction : Instruction,
      accepts instruction.unmarked = accepts instruction
  | .custom _ check => ∀ instruction : Instruction,
      check instruction.unmarked = (check instruction).map Captures.unmarked
  | .oneOf _ | .exactly .. => True
  | .not inner | .capture inner _ | .captureOperand inner _ => inner.Blind
  | .or left right => left.Blind ∧ right.Blind

theorem check?_unmarked {matcher : Matcher} (h : matcher.Blind) (instruction : Instruction) :
    matcher.check? instruction.unmarked =
      (matcher.check? instruction).map Captures.unmarked := by
  induction matcher with
  | predicate description accepts =>
      rw [check?, check?, h instruction]
      split <;> rfl
  | custom description check => exact h instruction
  | oneOf opcodes =>
      rw [check?, check?, show instruction.unmarked.opcode = instruction.opcode from rfl]
      split <;> rfl
  | exactly opcode operand =>
      rw [check?, check?, show instruction.unmarked.opcode = instruction.opcode from rfl,
        show instruction.unmarked.operand = instruction.operand from rfl]
      split <;> rfl
  | not inner ih =>
      rw [check?, check?, ih h]
      cases inner.check? instruction <;> rfl
  | or left right ihl ihr =>
      rw [check?, check?, ihl h.1, ihr h.2]
      cases left.check? instruction <;> rfl
  | capture inner name ih =>
      rw [check?, check?, ih h]
      cases inner.check? instruction with
      | none => rfl
      | some captures =>
          simp only [Option.map_some, Captures.unmarked, List.map_append, List.map_cons,
            List.map_nil, Capture.unmarked]
  | captureOperand inner name ih =>
      rw [check?, check?, ih h]
      cases inner.check? instruction with
      | none => rfl
      | some captures =>
          simp only [Option.map_some, Captures.unmarked, List.map_append, List.map_cons,
            List.map_nil, Capture.unmarked_ofOperand]

/-- The ready-made matchers. -/
inductive ReadyMade : Matcher → Prop
  | any : ReadyMade any
  | opcode (op : Opcode) : ReadyMade (opcode op)
  | loadLocal : ReadyMade loadLocal
  | loadLocalSlot (slot : Slot) : ReadyMade (loadLocalSlot slot)
  | storeLocal : ReadyMade storeLocal
  | storeLocalSlot (slot : Slot) : ReadyMade (storeLocalSlot slot)
  | loadArgument (slot : Slot) : ReadyMade (loadArgument slot)
  | branch : ReadyMade branch
  | intConstant (value : Int64) : ReadyMade (intConstant value)
  | anyIntConstant : ReadyMade anyIntConstant
  | floatConstant (value : Float) : ReadyMade (floatConstant value)
  | field (ref : FieldRef) : ReadyMade (field ref)
  | fieldNamed (name : String) : ReadyMade (fieldNamed name)
  | method (ref : MethodRef) : ReadyMade (method ref)
  | callTo (owner name : String) : ReadyMade (callTo owner name)

/-- None of the ready-made matchers looks at markers. -/
theorem blind_of_readyMade {matcher : Matcher} (h : matcher.ReadyMade) : matcher.Blind := by
  cases h with
  | opcode op => trivial
  | _ => exact fun _ => rfl

end Matcher

/-! ### Windows -/

namespace Pattern

/-- Whether none of the matchers looks at markers. -/
def Blind (pattern : Pattern) : Prop := ∀ matcher ∈ pattern, matcher.Blind

variable {pattern : Pattern} (h : pattern.Blind)

include h

theorem check?_unmarked (code : Code) :
    pattern.check? code.unmarked = (pattern.check? code).map Captures.unmarked := by
  induction pattern generalizing code with
  | nil => rfl
  | cons matcher pattern ih =>
      obtain ⟨hmatcher, hpattern⟩ := List.forall_mem_cons.mp h
      cases code with
      | nil => rfl
      | cons instruction code =>
          rw [Code.unmarked_cons, check?, check?, matcher.check?_unmarked hmatcher, ih hpattern]
          cases matcher.check? instruction with
          | none => rfl
          | some captures =>
              cases check? pattern code with
              | none => rfl
              | some rest => simp [Captures.unmarked]

theorem windowAt?_unmarked (index : Nat) (code : Code) :
    pattern.windowAt? index code.unmarked = (pattern.windowAt? index code).map Window.unmarked := by
  rw [windowAt?, windowAt?, check?_unmarked h, Option.map_map, Option.map_map]
  rfl

end Pattern

namespace Code

variable {pattern : Pattern} (h : pattern.Blind) (code : Code)

include h

/-- The search forward finds its window in the same place. -/
theorem findWindow?_unmarked (start : Nat) :
    code.unmarked.findWindow? pattern start =
      (code.findWindow? pattern start).map Window.unmarked :=
  findWindow?_transport Instruction.unmarked _ rfl (Pattern.windowAt?_unmarked h) code start

/-- The search backward finds its window in the same place. -/
theorem findLastWindow?_unmarked (limit : Nat) :
    code.unmarked.findLastWindow? pattern limit =
      (code.findLastWindow? pattern limit).map Window.unmarked :=
  findLastWindow?_transport Instruction.unmarked _ rfl (Pattern.windowAt?_unmarked h) code limit

end Code

end CilEdit
