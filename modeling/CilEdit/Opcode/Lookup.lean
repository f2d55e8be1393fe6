import CilEdit.Opcode.Table

/-! Opcodes by encoded value and by mnemonic. No two opcodes share either, so a look-up in the list
of all opcodes finds the one that was meant. -/

namespace CilEdit.Opcode

/-- All opcodes in the order of their encoded values. -/
def all : List Opcode :=
   [.nop, .breakpoint, .ldarg0, .ldarg1, .ldarg2, .ldarg3, .ldloc0, .ldloc1, .ldloc2, .ldloc3,
    .stloc0, .stloc1, .stloc2, .stloc3, .ldargS, .ldargaS, .stargS, .ldlocS, .ldlocaS, .stlocS,
    .ldnull, .ldcI4M1, .ldcI4_0, .ldcI4_1, .ldcI4_2, .ldcI4_3, .ldcI4_4, .ldcI4_5, .ldcI4_6,
    .ldcI4_7, .ldcI4_8, .ldcI4S, .ldcI4, .ldcI8, .ldcR4, .ldcR8, .dup, .pop, .jmp, .call, .calli,
    .ret, .brS, .brfalseS, .brtrueS, .beqS, .bgeS, .bgtS, .bleS, .bltS, .bneUnS, .bgeUnS, .bgtUnS,
    .bleUnS, .bltUnS, .br, .brfalse, .brtrue, .beq, .bge, .bgt, .ble, .blt, .bneUn, .bgeUn,
    .bgtUn, .bleUn, .bltUn, .switch, .ldindI1, .ldindU1, .ldindI2, .ldindU2, .ldindI4, .ldindU4,
    .ldindI8, .ldindI, .ldindR4, .ldindR8, .ldindRef, .stindRef, .stindI1, .stindI2, .stindI4,
    .stindI8, .stindR4, .stindR8, .add, .sub, .mul, .div, .divUn, .rem, .remUn, .and, .or, .xor,
    .shl, .shr, .shrUn, .neg, .not, .convI1, .convI2, .convI4, .convI8, .convR4, .convR8, .convU4,
    .convU8, .callvirt, .cpobj, .ldobj, .ldstr, .newobj, .castclass, .isinst, .convRUn, .unbox,
    .throw, .ldfld, .ldflda, .stfld, .ldsfld, .ldsflda, .stsfld, .stobj, .convOvfI1Un,
    .convOvfI2Un, .convOvfI4Un, .convOvfI8Un, .convOvfU1Un, .convOvfU2Un, .convOvfU4Un,
    .convOvfU8Un, .convOvfIUn, .convOvfUUn, .box, .newarr, .ldlen, .ldelema, .ldelemI1, .ldelemU1,
    .ldelemI2, .ldelemU2, .ldelemI4, .ldelemU4, .ldelemI8, .ldelemI, .ldelemR4, .ldelemR8,
    .ldelemRef, .stelemI, .stelemI1, .stelemI2, .stelemI4, .stelemI8, .stelemR4, .stelemR8,
    .stelemRef, .ldelem, .stelem, .unboxAny, .convOvfI1, .convOvfU1, .convOvfI2, .convOvfU2,
    .convOvfI4, .convOvfU4, .convOvfI8, .convOvfU8, .refanyval, .ckfinite, .mkrefany, .ldtoken,
    .convU2, .convU1, .convI, .convOvfI, .convOvfU, .addOvf, .addOvfUn, .mulOvf, .mulOvfUn,
    .subOvf, .subOvfUn, .endfinally, .leave, .leaveS, .stindI, .convU, .arglist, .ceq, .cgt,
    .cgtUn, .clt, .cltUn, .ldftn, .ldvirtftn, .ldarg, .ldarga, .starg, .ldloc, .ldloca, .stloc,
    .localloc, .endfilter, .unaligned, .volatile, .tail, .initobj, .constrained, .cpblk, .initblk,
    .no, .rethrow, .sizeof, .refanytype, .readonly]

def ofValue? (value : UInt16) : Option Opcode :=
  all.find? fun opcode => opcode.value == value

def ofMnemonic? (mnemonic : String) : Option Opcode :=
  all.find? fun opcode => opcode.mnemonic == mnemonic

end CilEdit.Opcode
