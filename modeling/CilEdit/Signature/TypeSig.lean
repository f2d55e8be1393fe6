/-! Types as operands and signatures name them. A type is a value of its own: nothing has to be
looked up to compare two types or to write one down. -/

namespace CilEdit

/-- A type as a signature names it. -/
inductive TypeSig where
  | void
  | bool
  | char
  | int8
  | uint8
  | int16
  | uint16
  | int32
  | uint32
  | int64
  | uint64
  | nativeInt
  | nativeUInt
  | float32
  | float64
  | object
  | string
  /-- a reference type by its full name -/
  | classType (name : String)
  /-- a value type by its full name -/
  | valueType (name : String)
  | array (element : TypeSig) (rank : UInt32)
  | pointer (target : TypeSig)
  | byRef (target : TypeSig)
  /-- a type parameter of the enclosing type, by position -/
  | typeParam (index : UInt32)
  /-- a type parameter of the enclosing method, by position -/
  | methodParam (index : UInt32)
  | typedReference
  deriving DecidableEq

namespace TypeSig

def isVoid (type : TypeSig) : Bool := type == .void

/-- The integer types, native ones included; characters and truth values are none. -/
def isInteger : TypeSig → Bool
  | .int8 | .uint8 | .int16 | .uint16 | .int32 | .uint32 | .int64 | .uint64 => true
  | .nativeInt | .nativeUInt => true
  | _ => false

def isFloat : TypeSig → Bool
  | .float32 | .float64 => true
  | _ => false

/-- The types whose values live on the heap. -/
def isReference : TypeSig → Bool
  | .object | .string | .classType _ | .array .. => true
  | _ => false

/-- The types whose values are stored in place. What stands behind a type parameter is not known,
so a parameter counts neither here nor as a reference. -/
def isValueType : TypeSig → Bool
  | .void | .typeParam _ | .methodParam _ => false
  | type => !type.isReference

/-- The element type of an array and the target type of a pointer or a managed reference. -/
def element? : TypeSig → Option TypeSig
  | .array element _ => some element
  | .pointer target => some target
  | .byRef target => some target
  | _ => none

/-- The brackets of an array type: one comma less than there are dimensions. -/
def brackets (rank : UInt32) : String :=
  "[" ++ String.ofList (List.replicate (rank.toNat - 1) ',') ++ "]"

def text : TypeSig → String
  | .void => "void"
  | .bool => "bool"
  | .char => "char"
  | .int8 => "int8"
  | .uint8 => "uint8"
  | .int16 => "int16"
  | .uint16 => "uint16"
  | .int32 => "int32"
  | .uint32 => "uint32"
  | .int64 => "int64"
  | .uint64 => "uint64"
  | .nativeInt => "native int"
  | .nativeUInt => "native uint"
  | .float32 => "float32"
  | .float64 => "float64"
  | .object => "object"
  | .string => "string"
  | .classType name => "class " ++ name
  | .valueType name => "valuetype " ++ name
  | .array element rank => element.text ++ brackets rank
  | .pointer target => target.text ++ "*"
  | .byRef target => target.text ++ "&"
  | .typeParam index => s!"!{index.toNat}"
  | .methodParam index => s!"!!{index.toNat}"
  | .typedReference => "typedref"

/-- The bare full name of a class or value type, and the assembly text of any other type. -/
def fullName : TypeSig → String
  | .classType name => name
  | .valueType name => name
  | type => type.text

end TypeSig

end CilEdit
