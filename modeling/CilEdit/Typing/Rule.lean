import CilEdit.Stack.Producer

/-! What decides the type of the value that an instruction pushes. The instruction itself decides it
for most opcodes; some hand on the type of a value that they take, and a read of a local variable
has the type that was stored last. -/

namespace CilEdit

/-- Where the type of a pushed value comes from. -/
inductive TypeSource where
  /-- from the instruction and the method alone; there is none if nothing typed is pushed -/
  | known (type : Option TypeSig)
  /-- from the value on top of the stack -/
  | top
  /-- from the first of two operands, or from the second if the first is untyped -/
  | operands
  /-- from the array below the index on top of the stack -/
  | element
  /-- from the nearest store into a local variable, or from its declaration -/
  | slot (slot : Slot)
  /-- as for a read of the local variable, but a reference to it -/
  | slotAddress (slot : Slot)

/-- The type that an opcode pushes whatever its operand. Small integers are widened when they are
loaded through a pointer or from an array; comparisons yield truth values. -/
def Opcode.pushedType? : Opcode → Option TypeSig
  | .ldcI4M1 | .ldcI4_0 | .ldcI4_1 | .ldcI4_2 | .ldcI4_3 | .ldcI4_4 | .ldcI4_5 | .ldcI4_6
  | .ldcI4_7 | .ldcI4_8 | .ldcI4S | .ldcI4 => some .int32
  | .ldcI8 => some .int64
  | .ldcR4 => some .float32
  | .ldcR8 => some .float64
  | .ldstr => some .string
  | .ldnull | .box => some .object
  | .ldindI1 | .ldindU1 | .ldindI2 | .ldindU2 | .ldindI4 | .ldindU4 => some .int32
  | .ldelemI1 | .ldelemU1 | .ldelemI2 | .ldelemU2 | .ldelemI4 | .ldelemU4 => some .int32
  | .sizeof => some .int32
  | .ldindI8 | .ldelemI8 => some .int64
  | .ldindI | .ldelemI => some .nativeInt
  | .ldindR4 | .ldelemR4 => some .float32
  | .ldindR8 | .ldelemR8 => some .float64
  | .ldindRef => some .object
  | .ldlen => some .nativeUInt
  | .convI1 | .convOvfI1 | .convOvfI1Un => some .int8
  | .convU1 | .convOvfU1 | .convOvfU1Un => some .uint8
  | .convI2 | .convOvfI2 | .convOvfI2Un => some .int16
  | .convU2 | .convOvfU2 | .convOvfU2Un => some .uint16
  | .convI4 | .convOvfI4 | .convOvfI4Un => some .int32
  | .convU4 | .convOvfU4 | .convOvfU4Un => some .uint32
  | .convI8 | .convOvfI8 | .convOvfI8Un => some .int64
  | .convU8 | .convOvfU8 | .convOvfU8Un => some .uint64
  | .convI | .convOvfI | .convOvfIUn => some .nativeInt
  | .convU | .convOvfU | .convOvfUUn => some .nativeUInt
  | .convR4 => some .float32
  | .convR8 | .convRUn => some .float64
  | .ceq | .cgt | .cgtUn | .clt | .cltUn => some .bool
  | .ldftn | .ldvirtftn | .localloc => some .nativeInt
  | .arglist => some (.valueType "System.RuntimeArgumentHandle")
  | .refanytype => some (.valueType "System.RuntimeTypeHandle")
  | .mkrefany => some .typedReference
  | _ => none

def MethodSig.resultType? (signature : MethodSig) : Option TypeSig :=
  if signature.returnsVoid then none else some signature.result

def Operand.handleType? : Operand → Option TypeSig
  | .type _ => some (.valueType "System.RuntimeTypeHandle")
  | .field _ => some (.valueType "System.RuntimeFieldHandle")
  | .method _ => some (.valueType "System.RuntimeMethodHandle")
  | _ => Option.none

/-- The type of an element of an array of this type: an object where the type is not an array. -/
def TypeSig.loadedElement : Option TypeSig → TypeSig
  | some (.array element _) => element
  | _ => .object

namespace Instruction

/-- Where a read of a local variable, or of its address, takes its type from. An access without a
slot has no type. -/
def localSource (instruction : Instruction) (source : Slot → TypeSource) : TypeSource :=
  match instruction.localSlot? with
  | some slot => source slot
  | none => .known none

/-- Where the type of the value comes from that the instruction pushes in `method`. -/
def typeSource (instruction : Instruction) (method : Method) : TypeSource :=
  match instruction.opcode.pushedType? with
  | some type => .known (some type)
  | none =>
    let operand := instruction.operand
    match instruction.opcode with
    | .dup | .ckfinite | .neg | .not => .top
    | .add | .sub | .mul | .div | .divUn | .rem | .remUn | .and | .or | .xor | .shl | .shr
    | .shrUn | .addOvf | .addOvfUn | .mulOvf | .mulOvfUn | .subOvf | .subOvfUn => .operands
    | .ldelemRef => .element
    | .ldloc0 | .ldloc1 | .ldloc2 | .ldloc3 | .ldlocS | .ldloc => instruction.localSource .slot
    | .ldlocaS | .ldloca => instruction.localSource .slotAddress
    | .ldarg0 | .ldarg1 | .ldarg2 | .ldarg3 | .ldargS | .ldarg =>
      .known (instruction.argumentSlot?.bind method.argumentType?)
    | .ldargaS | .ldarga =>
      .known ((instruction.argumentSlot?.bind method.argumentType?).map .byRef)
    | .call | .callvirt => .known (operand.method?.bind fun ref => ref.signature.resultType?)
    | .calli => .known (operand.signature?.bind MethodSig.resultType?)
    | .newobj => .known (operand.method?.map MethodRef.owner)
    | .ldfld | .ldsfld => .known (operand.field?.map FieldRef.type)
    | .ldflda | .ldsflda => .known (operand.field?.map fun ref => .byRef ref.type)
    | .ldelema | .unbox | .refanyval => .known (operand.type?.map .byRef)
    | .ldelem | .ldobj | .castclass | .isinst | .unboxAny => .known operand.type?
    | .newarr => .known (operand.type?.map fun element => .array element 1)
    | .ldtoken => .known operand.handleType?
    | _ => .known none

end Instruction

end CilEdit
