import CilEdit.Matcher.Basic

/-! Ready-made matchers for the conditions that patches ask for. An access to a slot is matched in
every form in which it can be written. -/

namespace CilEdit.Matcher

def any : Matcher := .predicate "any" fun _ => true

def opcode (opcode : Opcode) : Matcher := .oneOf [opcode]

/-- A push of any local variable or of its address. -/
def loadLocal : Matcher := .predicate "ldloc *" Instruction.isLoadLocal

/-- A push of one local variable or of its address. -/
def loadLocalSlot (slot : Slot) : Matcher :=
  .predicate s!"ldloc {slot.toNat}" fun instruction =>
    instruction.isLoadLocal && instruction.localSlot? == some slot

def storeLocal : Matcher := .predicate "stloc *" Instruction.isStoreLocal

def storeLocalSlot (slot : Slot) : Matcher :=
  .predicate s!"stloc {slot.toNat}" fun instruction => instruction.storesTo slot

/-- A push of one argument or of its address. -/
def loadArgument (slot : Slot) : Matcher :=
  .predicate s!"ldarg {slot.toNat}" fun instruction =>
    instruction.isLoadArgument && instruction.argumentSlot? == some slot

def branch : Matcher := .predicate "branch" Instruction.isBranch

def intConstant (value : Int64) : Matcher :=
  .predicate s!"ldc.i {value.toInt}" fun instruction => instruction.intConstant? == some value

def anyIntConstant : Matcher :=
  .predicate "ldc.i *" fun instruction => instruction.intConstant?.isSome

/-- A push of one floating point constant, compared as a number. -/
def floatConstant (value : Float) : Matcher :=
  .predicate ("ldc.r " ++ (Decimal.Binary.ofFloat value).plainText) fun instruction =>
    instruction.floatConstant? == some value

def field (field : FieldRef) : Matcher :=
  .predicate ("field " ++ field.text) fun instruction =>
    instruction.operand.field? == some field

def fieldNamed (name : String) : Matcher :=
  .predicate ("field *::" ++ name) fun instruction =>
    instruction.operand.field?.any fun field => field.name == name

def method (method : MethodRef) : Matcher :=
  .predicate ("method " ++ method.text) fun instruction =>
    instruction.operand.method? == some method

/-- A call of a method by the full name of its owner and its own name. -/
def callTo (owner name : String) : Matcher :=
  .predicate ("call " ++ owner ++ "::" ++ name) fun instruction =>
    (instruction.opcode == .call || instruction.opcode == .callvirt) &&
      instruction.operand.method?.any fun method =>
        method.name == name && method.owner.fullName == owner

end CilEdit.Matcher
