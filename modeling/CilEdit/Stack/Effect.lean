import CilEdit.Instruction.Access
import CilEdit.Text.Outline

/-! The effect of an instruction on the evaluation stack. For most opcodes the instruction table
gives it. A call takes and leaves what the signature of its callee says, so a call whose operand
holds no signature of the right sort has no effect that could be derived: that is the one way in
which a question about the stack can fail. -/

namespace CilEdit

/-- A call-shaped instruction without the signature that its effect follows from. -/
structure Unsupported where
  opcode : Opcode
  /-- the operand that holds no signature -/
  operand : Operand

def Unsupported.message (failure : Unsupported) : String :=
  "call-shaped opcode with operand " ++ failure.operand.outline

/-- How many values an instruction takes from the stack and then leaves on it. -/
structure StackEffect where
  pops : Nat
  pushes : Nat
  deriving DecidableEq

def StackEffect.net (effect : StackEffect) : Int := (effect.pushes : Int) - effect.pops

namespace CallShape

/-- The signature of the callee, where the operand holds one of the sort that the call needs. -/
def signature? : CallShape → Operand → Option MethodSig
  | .method, operand => operand.method?.map MethodRef.signature
  | .pointer, operand => operand.signature?
  | .constructor, operand => operand.method?.map MethodRef.signature

/-- The number of results that a call leaves. -/
def results (signature : MethodSig) : Nat := if signature.returnsVoid then 0 else 1

/-- The effect of a call. A call through a pointer also takes the pointer; a constructor takes only
its listed parameters and leaves the new instance. -/
def effect : CallShape → MethodSig → StackEffect
  | .method, signature => ⟨signature.arity, results signature⟩
  | .pointer, signature => ⟨signature.arity + 1, results signature⟩
  | .constructor, signature => ⟨signature.params.length, 1⟩

end CallShape

/-- The effect of the instruction on the evaluation stack. Returning takes one value: methods
without a result are not told apart. -/
def Instruction.stackEffect (instruction : Instruction) : Except Unsupported StackEffect :=
  match instruction.opcode.effect with
  | .fixed pops pushes => .ok ⟨pops, pushes⟩
  | .ret => .ok ⟨1, 0⟩
  | .call shape =>
    match shape.signature? instruction.operand with
    | some signature => .ok (shape.effect signature)
    | none => .error ⟨instruction.opcode, instruction.operand⟩

end CilEdit
