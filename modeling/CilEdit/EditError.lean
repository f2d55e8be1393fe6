import CilEdit.Stack.Effect

/-! What can go wrong while code is edited. -/

namespace CilEdit

inductive EditError where
  /-- a call without the signature that its stack effect follows from -/
  | unsupported (failure : Unsupported)
  | released
  /-- a failure that a patch reports in its own words -/
  | custom (text : String)

namespace EditError

/-- The failure in words, without the instruction that it is about. -/
def message : EditError → String
  | .unsupported failure => failure.message
  | .released => "The cursor has already released its instruction list"
  | .custom text => text

/-- The failure in words. The place in the program that found a signature missing is left out. -/
def text : EditError → String
  | .unsupported failure => "Unsupported " ++ failure.opcode.mnemonic ++ ": " ++ failure.message
  | error => error.message

end EditError

end CilEdit
