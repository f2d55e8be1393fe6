import CilEdit.Signature.MethodSig

/-! References to fields and methods. A reference carries all that an instruction needs to know
about the member: its owner, its name and its type. -/

namespace CilEdit

structure FieldRef where
  owner : TypeSig
  name : String
  type : TypeSig
  deriving DecidableEq

/-- The field in assembly text: its type, its owner and its name. -/
def FieldRef.text (field : FieldRef) : String :=
  field.type.text ++ " " ++ field.owner.text ++ "::" ++ field.name

structure MethodRef where
  owner : TypeSig
  name : String
  signature : MethodSig
  deriving DecidableEq

namespace MethodRef

/-- Whether the method is called without a receiver. -/
def isStatic (method : MethodRef) : Bool := !method.signature.hasImplicitThis

def isConstructor (method : MethodRef) : Bool := method.name == ".ctor"

/-- The method in assembly text: its result, its owner, its name and its parameters. -/
def text (method : MethodRef) : String :=
  method.signature.result.text ++ " " ++ method.owner.text ++ "::" ++ method.name ++
    method.signature.paramsText

end MethodRef

end CilEdit
