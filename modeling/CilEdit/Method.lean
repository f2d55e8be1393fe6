import CilEdit.Signature.Member

/-! The method whose code is edited: who declares it, what it is called with and which local
variables it declares. Slots of arguments and of local variables are sixteen-bit numbers. -/

namespace CilEdit

/-- The number of an argument or of a local variable. -/
abbrev Slot := UInt16

/-- A method as its own code sees it. -/
structure Method where
  owner : TypeSig
  name : String
  signature : MethodSig
  /-- the types of the declared local variables in slot order -/
  locals : List TypeSig
  deriving DecidableEq

namespace Method

/-- The type of the receiver: a method of a value type is handed a reference to the value. -/
def receiverType (method : Method) : TypeSig :=
  match method.owner with
  | .valueType name => .byRef (.valueType name)
  | owner => owner

/-- The types of all arguments in slot order, the receiver in front. -/
def arguments (method : Method) : List TypeSig :=
  if method.signature.hasImplicitThis then method.receiverType :: method.signature.params
  else method.signature.params

/-- The type of an argument. -/
def argumentType? (method : Method) (slot : Slot) : Option TypeSig := method.arguments[slot.toNat]?

/-- The type of a declared local variable. -/
def localType? (method : Method) (slot : Slot) : Option TypeSig := method.locals[slot.toNat]?

/-- The name under which the method is reported. -/
def fullName (method : Method) : String := method.owner.fullName ++ "::" ++ method.name

end Method

end CilEdit
