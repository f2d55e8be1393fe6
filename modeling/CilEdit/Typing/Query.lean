import CilEdit.Typing.Search

/-! Questions about the types on the evaluation stack of some code. -/

namespace CilEdit.Code

/-- The type of the value that the instruction at `index` pushes. Outside the code there is none. -/
def pushedType (code : Code) (method : Method) (index : Nat) :
    Except Unsupported (Option TypeSig) :=
  match code.site? index with
  | none => .ok none
  | some site => Typing.resolve method site

/-- The type of the value below `above` others on the stack, as it is just before the instruction at
`index` runs. -/
def stackType (code : Code) (method : Method) (index above : Nat) :
    Except Unsupported (Option TypeSig) :=
  match (code.before index).producer? above with
  | .error failure => .error failure
  | .ok none => .ok none
  | .ok (some producer) => Typing.resolve method producer

end CilEdit.Code
