import CilEdit.Matcher.Capture

/-! Matchers: expressions that accept or refuse one instruction and may record something of an
instruction that they accept. They are built from opcode sets, exact operands, arbitrary predicates
and arbitrary checks by negation, alternative and recording. -/

namespace CilEdit

/-- A condition on one instruction. -/
inductive Matcher where
  /-- any condition, with the text that describes it -/
  | predicate (description : String) (accepts : Instruction → Bool)
  /-- any check, with the text that describes it: what it records, unless it refuses -/
  | custom (description : String) (check : Instruction → Option Captures)
  | oneOf (opcodes : List Opcode)
  | exactly (opcode : Opcode) (operand : Operand)
  | not (inner : Matcher)
  | or (left right : Matcher)
  /-- what `inner` accepts, recording the instruction -/
  | capture (inner : Matcher) (name : String)
  /-- what `inner` accepts, recording what its operand means -/
  | captureOperand (inner : Matcher) (name : String)

namespace Matcher

/-- What a check reports: whether the instruction is accepted and, apart from that, the recorded
values. -/
structure Finding where
  accepted : Bool
  captures : Captures

/-- The matcher with a check that reports findings. What it reports with a refusal counts for
nothing. -/
def ofCheck (description : String) (check : Instruction → Finding) : Matcher :=
  .custom description fun instruction =>
    if (check instruction).accepted then some (check instruction).captures else none

/-- The values that are recorded when the instruction is accepted; nothing when it is refused. A
negation records nothing, an alternative what its first accepting side records, and a recording adds
its value behind those of the matcher that it wraps. -/
def check? : Matcher → Instruction → Option Captures
  | .predicate _ accepts, instruction => if accepts instruction then some [] else none
  | .custom _ check, instruction => check instruction
  | .oneOf opcodes, instruction => if opcodes.contains instruction.opcode then some [] else none
  | .exactly opcode operand, instruction =>
    if instruction.opcode == opcode && instruction.operand == operand then some [] else none
  | .not inner, instruction =>
    match inner.check? instruction with
    | some _ => none
    | none => some []
  | .or left right, instruction =>
    match left.check? instruction with
    | some captures => some captures
    | none => right.check? instruction
  | .capture inner name, instruction =>
    (inner.check? instruction).map fun captures => captures ++ [(name, .instruction instruction)]
  | .captureOperand inner name, instruction =>
    (inner.check? instruction).map fun captures =>
      captures ++ [(name, Capture.ofOperand instruction)]

def accepts (matcher : Matcher) (instruction : Instruction) : Bool :=
  (matcher.check? instruction).isSome

/-- The recorded values; none when the instruction is refused. -/
def captures (matcher : Matcher) (instruction : Instruction) : Captures :=
  (matcher.check? instruction).getD []

/-- The matcher as diagnostics show it. -/
def description : Matcher → String
  | .predicate description _ | .custom description _ => description
  | .oneOf opcodes => "|".intercalate (opcodes.map Opcode.mnemonic)
  | .exactly opcode operand =>
    match operand.text? with
    | some text => opcode.mnemonic ++ " " ++ text
    | none => opcode.mnemonic
  | .not inner => "!(" ++ inner.description ++ ")"
  | .or left right => left.description ++ " | " ++ right.description
  | .capture inner name => inner.description ++ " as " ++ name
  | .captureOperand inner name => inner.description ++ " as " ++ name

def outline (matcher : Matcher) : String := "Matcher(" ++ matcher.description ++ ")"

/-- The same condition without any recording. -/
def erase : Matcher → Matcher
  | .predicate description accepts => .predicate description accepts
  | .custom description check =>
    .custom description fun instruction => (check instruction).map fun _ => []
  | .oneOf opcodes => .oneOf opcodes
  | .exactly opcode operand => .exactly opcode operand
  | .not inner => .not inner.erase
  | .or left right => .or left.erase right.erase
  | .capture inner _ => inner.erase
  | .captureOperand inner _ => inner.erase

end Matcher

end CilEdit
