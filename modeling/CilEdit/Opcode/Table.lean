import CilEdit.Opcode.Basic

/-! The instruction table: one row per opcode with its encoded value, its mnemonic, the operand it
is written with, its control flow, its group and its stack effect. A value below `0x100` is the
single byte of the opcode; a value from `0xfe00` on is the escape byte and a second byte. -/

namespace CilEdit

/-- A row of the instruction table. -/
structure Opcode.Info where
  /-- the encoded value -/
  value : UInt16
  mnemonic : String
  operand : OperandKind
  flow : Flow
  category : Category
  effect : OpcodeEffect

namespace Opcode

def info : Opcode → Info
  | .nop => ⟨0x00, "nop", .none, .sequential, .misc, .fixed 0 0⟩
  | .breakpoint => ⟨0x01, "break", .none, .sequential, .misc, .fixed 0 0⟩
  | .ldarg0 => ⟨0x02, "ldarg.0", .none, .sequential, .loadStore, .fixed 0 1⟩
  | .ldarg1 => ⟨0x03, "ldarg.1", .none, .sequential, .loadStore, .fixed 0 1⟩
  | .ldarg2 => ⟨0x04, "ldarg.2", .none, .sequential, .loadStore, .fixed 0 1⟩
  | .ldarg3 => ⟨0x05, "ldarg.3", .none, .sequential, .loadStore, .fixed 0 1⟩
  | .ldloc0 => ⟨0x06, "ldloc.0", .none, .sequential, .loadStore, .fixed 0 1⟩
  | .ldloc1 => ⟨0x07, "ldloc.1", .none, .sequential, .loadStore, .fixed 0 1⟩
  | .ldloc2 => ⟨0x08, "ldloc.2", .none, .sequential, .loadStore, .fixed 0 1⟩
  | .ldloc3 => ⟨0x09, "ldloc.3", .none, .sequential, .loadStore, .fixed 0 1⟩
  | .stloc0 => ⟨0x0a, "stloc.0", .none, .sequential, .loadStore, .fixed 1 0⟩
  | .stloc1 => ⟨0x0b, "stloc.1", .none, .sequential, .loadStore, .fixed 1 0⟩
  | .stloc2 => ⟨0x0c, "stloc.2", .none, .sequential, .loadStore, .fixed 1 0⟩
  | .stloc3 => ⟨0x0d, "stloc.3", .none, .sequential, .loadStore, .fixed 1 0⟩
  | .ldargS => ⟨0x0e, "ldarg.s", .argument, .sequential, .loadStore, .fixed 0 1⟩
  | .ldargaS => ⟨0x0f, "ldarga.s", .argument, .sequential, .loadStore, .fixed 0 1⟩
  | .stargS => ⟨0x10, "starg.s", .argument, .sequential, .loadStore, .fixed 1 0⟩
  | .ldlocS => ⟨0x11, "ldloc.s", .localSlot, .sequential, .loadStore, .fixed 0 1⟩
  | .ldlocaS => ⟨0x12, "ldloca.s", .localSlot, .sequential, .loadStore, .fixed 0 1⟩
  | .stlocS => ⟨0x13, "stloc.s", .localSlot, .sequential, .loadStore, .fixed 1 0⟩
  | .ldnull => ⟨0x14, "ldnull", .none, .sequential, .loadStore, .fixed 0 1⟩
  | .ldcI4M1 => ⟨0x15, "ldc.i4.m1", .none, .sequential, .loadStore, .fixed 0 1⟩
  | .ldcI4_0 => ⟨0x16, "ldc.i4.0", .none, .sequential, .loadStore, .fixed 0 1⟩
  | .ldcI4_1 => ⟨0x17, "ldc.i4.1", .none, .sequential, .loadStore, .fixed 0 1⟩
  | .ldcI4_2 => ⟨0x18, "ldc.i4.2", .none, .sequential, .loadStore, .fixed 0 1⟩
  | .ldcI4_3 => ⟨0x19, "ldc.i4.3", .none, .sequential, .loadStore, .fixed 0 1⟩
  | .ldcI4_4 => ⟨0x1a, "ldc.i4.4", .none, .sequential, .loadStore, .fixed 0 1⟩
  | .ldcI4_5 => ⟨0x1b, "ldc.i4.5", .none, .sequential, .loadStore, .fixed 0 1⟩
  | .ldcI4_6 => ⟨0x1c, "ldc.i4.6", .none, .sequential, .loadStore, .fixed 0 1⟩
  | .ldcI4_7 => ⟨0x1d, "ldc.i4.7", .none, .sequential, .loadStore, .fixed 0 1⟩
  | .ldcI4_8 => ⟨0x1e, "ldc.i4.8", .none, .sequential, .loadStore, .fixed 0 1⟩
  | .ldcI4S => ⟨0x1f, "ldc.i4.s", .int8, .sequential, .loadStore, .fixed 0 1⟩
  | .ldcI4 => ⟨0x20, "ldc.i4", .int32, .sequential, .loadStore, .fixed 0 1⟩
  | .ldcI8 => ⟨0x21, "ldc.i8", .int64, .sequential, .loadStore, .fixed 0 1⟩
  | .ldcR4 => ⟨0x22, "ldc.r4", .float32, .sequential, .loadStore, .fixed 0 1⟩
  | .ldcR8 => ⟨0x23, "ldc.r8", .float64, .sequential, .loadStore, .fixed 0 1⟩
  | .dup => ⟨0x25, "dup", .none, .sequential, .misc, .fixed 1 2⟩
  | .pop => ⟨0x26, "pop", .none, .sequential, .misc, .fixed 1 0⟩
  | .jmp => ⟨0x27, "jmp", .method, .call, .controlFlow, .fixed 0 0⟩
  | .call => ⟨0x28, "call", .method, .call, .controlFlow, .call .method⟩
  | .calli => ⟨0x29, "calli", .signature, .call, .controlFlow, .call .pointer⟩
  | .ret => ⟨0x2a, "ret", .none, .ret, .controlFlow, .ret⟩
  | .brS => ⟨0x2b, "br.s", .target, .unconditionalBranch, .controlFlow, .fixed 0 0⟩
  | .brfalseS => ⟨0x2c, "brfalse.s", .target, .conditionalBranch, .controlFlow, .fixed 1 0⟩
  | .brtrueS => ⟨0x2d, "brtrue.s", .target, .conditionalBranch, .controlFlow, .fixed 1 0⟩
  | .beqS => ⟨0x2e, "beq.s", .target, .conditionalBranch, .controlFlow, .fixed 2 0⟩
  | .bgeS => ⟨0x2f, "bge.s", .target, .conditionalBranch, .controlFlow, .fixed 2 0⟩
  | .bgtS => ⟨0x30, "bgt.s", .target, .conditionalBranch, .controlFlow, .fixed 2 0⟩
  | .bleS => ⟨0x31, "ble.s", .target, .conditionalBranch, .controlFlow, .fixed 2 0⟩
  | .bltS => ⟨0x32, "blt.s", .target, .conditionalBranch, .controlFlow, .fixed 2 0⟩
  | .bneUnS => ⟨0x33, "bne.un.s", .target, .conditionalBranch, .controlFlow, .fixed 2 0⟩
  | .bgeUnS => ⟨0x34, "bge.un.s", .target, .conditionalBranch, .controlFlow, .fixed 2 0⟩
  | .bgtUnS => ⟨0x35, "bgt.un.s", .target, .conditionalBranch, .controlFlow, .fixed 2 0⟩
  | .bleUnS => ⟨0x36, "ble.un.s", .target, .conditionalBranch, .controlFlow, .fixed 2 0⟩
  | .bltUnS => ⟨0x37, "blt.un.s", .target, .conditionalBranch, .controlFlow, .fixed 2 0⟩
  | .br => ⟨0x38, "br", .target, .unconditionalBranch, .controlFlow, .fixed 0 0⟩
  | .brfalse => ⟨0x39, "brfalse", .target, .conditionalBranch, .controlFlow, .fixed 1 0⟩
  | .brtrue => ⟨0x3a, "brtrue", .target, .conditionalBranch, .controlFlow, .fixed 1 0⟩
  | .beq => ⟨0x3b, "beq", .target, .conditionalBranch, .controlFlow, .fixed 2 0⟩
  | .bge => ⟨0x3c, "bge", .target, .conditionalBranch, .controlFlow, .fixed 2 0⟩
  | .bgt => ⟨0x3d, "bgt", .target, .conditionalBranch, .controlFlow, .fixed 2 0⟩
  | .ble => ⟨0x3e, "ble", .target, .conditionalBranch, .controlFlow, .fixed 2 0⟩
  | .blt => ⟨0x3f, "blt", .target, .conditionalBranch, .controlFlow, .fixed 2 0⟩
  | .bneUn => ⟨0x40, "bne.un", .target, .conditionalBranch, .controlFlow, .fixed 2 0⟩
  | .bgeUn => ⟨0x41, "bge.un", .target, .conditionalBranch, .controlFlow, .fixed 2 0⟩
  | .bgtUn => ⟨0x42, "bgt.un", .target, .conditionalBranch, .controlFlow, .fixed 2 0⟩
  | .bleUn => ⟨0x43, "ble.un", .target, .conditionalBranch, .controlFlow, .fixed 2 0⟩
  | .bltUn => ⟨0x44, "blt.un", .target, .conditionalBranch, .controlFlow, .fixed 2 0⟩
  | .switch => ⟨0x45, "switch", .switch, .switch, .controlFlow, .fixed 1 0⟩
  | .ldindI1 => ⟨0x46, "ldind.i1", .none, .sequential, .loadStore, .fixed 1 1⟩
  | .ldindU1 => ⟨0x47, "ldind.u1", .none, .sequential, .loadStore, .fixed 1 1⟩
  | .ldindI2 => ⟨0x48, "ldind.i2", .none, .sequential, .loadStore, .fixed 1 1⟩
  | .ldindU2 => ⟨0x49, "ldind.u2", .none, .sequential, .loadStore, .fixed 1 1⟩
  | .ldindI4 => ⟨0x4a, "ldind.i4", .none, .sequential, .loadStore, .fixed 1 1⟩
  | .ldindU4 => ⟨0x4b, "ldind.u4", .none, .sequential, .loadStore, .fixed 1 1⟩
  | .ldindI8 => ⟨0x4c, "ldind.i8", .none, .sequential, .loadStore, .fixed 1 1⟩
  | .ldindI => ⟨0x4d, "ldind.i", .none, .sequential, .loadStore, .fixed 1 1⟩
  | .ldindR4 => ⟨0x4e, "ldind.r4", .none, .sequential, .loadStore, .fixed 1 1⟩
  | .ldindR8 => ⟨0x4f, "ldind.r8", .none, .sequential, .loadStore, .fixed 1 1⟩
  | .ldindRef => ⟨0x50, "ldind.ref", .none, .sequential, .loadStore, .fixed 1 1⟩
  | .stindRef => ⟨0x51, "stind.ref", .none, .sequential, .loadStore, .fixed 2 0⟩
  | .stindI1 => ⟨0x52, "stind.i1", .none, .sequential, .loadStore, .fixed 2 0⟩
  | .stindI2 => ⟨0x53, "stind.i2", .none, .sequential, .loadStore, .fixed 2 0⟩
  | .stindI4 => ⟨0x54, "stind.i4", .none, .sequential, .loadStore, .fixed 2 0⟩
  | .stindI8 => ⟨0x55, "stind.i8", .none, .sequential, .loadStore, .fixed 2 0⟩
  | .stindR4 => ⟨0x56, "stind.r4", .none, .sequential, .loadStore, .fixed 2 0⟩
  | .stindR8 => ⟨0x57, "stind.r8", .none, .sequential, .loadStore, .fixed 2 0⟩
  | .add => ⟨0x58, "add", .none, .sequential, .arithmetic, .fixed 2 1⟩
  | .sub => ⟨0x59, "sub", .none, .sequential, .arithmetic, .fixed 2 1⟩
  | .mul => ⟨0x5a, "mul", .none, .sequential, .arithmetic, .fixed 2 1⟩
  | .div => ⟨0x5b, "div", .none, .sequential, .arithmetic, .fixed 2 1⟩
  | .divUn => ⟨0x5c, "div.un", .none, .sequential, .arithmetic, .fixed 2 1⟩
  | .rem => ⟨0x5d, "rem", .none, .sequential, .arithmetic, .fixed 2 1⟩
  | .remUn => ⟨0x5e, "rem.un", .none, .sequential, .arithmetic, .fixed 2 1⟩
  | .and => ⟨0x5f, "and", .none, .sequential, .bitwiseLogical, .fixed 2 1⟩
  | .or => ⟨0x60, "or", .none, .sequential, .bitwiseLogical, .fixed 2 1⟩
  | .xor => ⟨0x61, "xor", .none, .sequential, .bitwiseLogical, .fixed 2 1⟩
  | .shl => ⟨0x62, "shl", .none, .sequential, .bitwiseLogical, .fixed 2 1⟩
  | .shr => ⟨0x63, "shr", .none, .sequential, .bitwiseLogical, .fixed 2 1⟩
  | .shrUn => ⟨0x64, "shr.un", .none, .sequential, .bitwiseLogical, .fixed 2 1⟩
  | .neg => ⟨0x65, "neg", .none, .sequential, .arithmetic, .fixed 1 1⟩
  | .not => ⟨0x66, "not", .none, .sequential, .bitwiseLogical, .fixed 1 1⟩
  | .convI1 => ⟨0x67, "conv.i1", .none, .sequential, .conversion, .fixed 1 1⟩
  | .convI2 => ⟨0x68, "conv.i2", .none, .sequential, .conversion, .fixed 1 1⟩
  | .convI4 => ⟨0x69, "conv.i4", .none, .sequential, .conversion, .fixed 1 1⟩
  | .convI8 => ⟨0x6a, "conv.i8", .none, .sequential, .conversion, .fixed 1 1⟩
  | .convR4 => ⟨0x6b, "conv.r4", .none, .sequential, .conversion, .fixed 1 1⟩
  | .convR8 => ⟨0x6c, "conv.r8", .none, .sequential, .conversion, .fixed 1 1⟩
  | .convU4 => ⟨0x6d, "conv.u4", .none, .sequential, .conversion, .fixed 1 1⟩
  | .convU8 => ⟨0x6e, "conv.u8", .none, .sequential, .conversion, .fixed 1 1⟩
  | .callvirt => ⟨0x6f, "callvirt", .method, .call, .controlFlow, .call .method⟩
  | .cpobj => ⟨0x70, "cpobj", .type, .sequential, .objectModel, .fixed 2 0⟩
  | .ldobj => ⟨0x71, "ldobj", .type, .sequential, .objectModel, .fixed 1 1⟩
  | .ldstr => ⟨0x72, "ldstr", .string, .sequential, .objectModel, .fixed 0 1⟩
  | .newobj => ⟨0x73, "newobj", .method, .call, .objectModel, .call .constructor⟩
  | .castclass => ⟨0x74, "castclass", .type, .sequential, .objectModel, .fixed 1 1⟩
  | .isinst => ⟨0x75, "isinst", .type, .sequential, .objectModel, .fixed 1 1⟩
  | .convRUn => ⟨0x76, "conv.r.un", .none, .sequential, .conversion, .fixed 1 1⟩
  | .unbox => ⟨0x79, "unbox", .type, .sequential, .conversion, .fixed 1 1⟩
  | .throw => ⟨0x7a, "throw", .none, .throw, .controlFlow, .fixed 1 0⟩
  | .ldfld => ⟨0x7b, "ldfld", .field, .sequential, .objectModel, .fixed 1 1⟩
  | .ldflda => ⟨0x7c, "ldflda", .field, .sequential, .objectModel, .fixed 1 1⟩
  | .stfld => ⟨0x7d, "stfld", .field, .sequential, .objectModel, .fixed 2 0⟩
  | .ldsfld => ⟨0x7e, "ldsfld", .field, .sequential, .objectModel, .fixed 0 1⟩
  | .ldsflda => ⟨0x7f, "ldsflda", .field, .sequential, .objectModel, .fixed 0 1⟩
  | .stsfld => ⟨0x80, "stsfld", .field, .sequential, .objectModel, .fixed 1 0⟩
  | .stobj => ⟨0x81, "stobj", .type, .sequential, .objectModel, .fixed 2 0⟩
  | .convOvfI1Un => ⟨0x82, "conv.ovf.i1.un", .none, .sequential, .conversion, .fixed 1 1⟩
  | .convOvfI2Un => ⟨0x83, "conv.ovf.i2.un", .none, .sequential, .conversion, .fixed 1 1⟩
  | .convOvfI4Un => ⟨0x84, "conv.ovf.i4.un", .none, .sequential, .conversion, .fixed 1 1⟩
  | .convOvfI8Un => ⟨0x85, "conv.ovf.i8.un", .none, .sequential, .conversion, .fixed 1 1⟩
  | .convOvfU1Un => ⟨0x86, "conv.ovf.u1.un", .none, .sequential, .conversion, .fixed 1 1⟩
  | .convOvfU2Un => ⟨0x87, "conv.ovf.u2.un", .none, .sequential, .conversion, .fixed 1 1⟩
  | .convOvfU4Un => ⟨0x88, "conv.ovf.u4.un", .none, .sequential, .conversion, .fixed 1 1⟩
  | .convOvfU8Un => ⟨0x89, "conv.ovf.u8.un", .none, .sequential, .conversion, .fixed 1 1⟩
  | .convOvfIUn => ⟨0x8a, "conv.ovf.i.un", .none, .sequential, .conversion, .fixed 1 1⟩
  | .convOvfUUn => ⟨0x8b, "conv.ovf.u.un", .none, .sequential, .conversion, .fixed 1 1⟩
  | .box => ⟨0x8c, "box", .type, .sequential, .conversion, .fixed 1 1⟩
  | .newarr => ⟨0x8d, "newarr", .type, .sequential, .objectModel, .fixed 1 1⟩
  | .ldlen => ⟨0x8e, "ldlen", .none, .sequential, .objectModel, .fixed 1 1⟩
  | .ldelema => ⟨0x8f, "ldelema", .type, .sequential, .objectModel, .fixed 2 1⟩
  | .ldelemI1 => ⟨0x90, "ldelem.i1", .none, .sequential, .objectModel, .fixed 2 1⟩
  | .ldelemU1 => ⟨0x91, "ldelem.u1", .none, .sequential, .objectModel, .fixed 2 1⟩
  | .ldelemI2 => ⟨0x92, "ldelem.i2", .none, .sequential, .objectModel, .fixed 2 1⟩
  | .ldelemU2 => ⟨0x93, "ldelem.u2", .none, .sequential, .objectModel, .fixed 2 1⟩
  | .ldelemI4 => ⟨0x94, "ldelem.i4", .none, .sequential, .objectModel, .fixed 2 1⟩
  | .ldelemU4 => ⟨0x95, "ldelem.u4", .none, .sequential, .objectModel, .fixed 2 1⟩
  | .ldelemI8 => ⟨0x96, "ldelem.i8", .none, .sequential, .objectModel, .fixed 2 1⟩
  | .ldelemI => ⟨0x97, "ldelem.i", .none, .sequential, .objectModel, .fixed 2 1⟩
  | .ldelemR4 => ⟨0x98, "ldelem.r4", .none, .sequential, .objectModel, .fixed 2 1⟩
  | .ldelemR8 => ⟨0x99, "ldelem.r8", .none, .sequential, .objectModel, .fixed 2 1⟩
  | .ldelemRef => ⟨0x9a, "ldelem.ref", .none, .sequential, .objectModel, .fixed 2 1⟩
  | .stelemI => ⟨0x9b, "stelem.i", .none, .sequential, .objectModel, .fixed 3 0⟩
  | .stelemI1 => ⟨0x9c, "stelem.i1", .none, .sequential, .objectModel, .fixed 3 0⟩
  | .stelemI2 => ⟨0x9d, "stelem.i2", .none, .sequential, .objectModel, .fixed 3 0⟩
  | .stelemI4 => ⟨0x9e, "stelem.i4", .none, .sequential, .objectModel, .fixed 3 0⟩
  | .stelemI8 => ⟨0x9f, "stelem.i8", .none, .sequential, .objectModel, .fixed 3 0⟩
  | .stelemR4 => ⟨0xa0, "stelem.r4", .none, .sequential, .objectModel, .fixed 3 0⟩
  | .stelemR8 => ⟨0xa1, "stelem.r8", .none, .sequential, .objectModel, .fixed 3 0⟩
  | .stelemRef => ⟨0xa2, "stelem.ref", .none, .sequential, .objectModel, .fixed 3 0⟩
  | .ldelem => ⟨0xa3, "ldelem", .type, .sequential, .objectModel, .fixed 2 1⟩
  | .stelem => ⟨0xa4, "stelem", .type, .sequential, .objectModel, .fixed 3 0⟩
  | .unboxAny => ⟨0xa5, "unbox.any", .type, .sequential, .conversion, .fixed 1 1⟩
  | .convOvfI1 => ⟨0xb3, "conv.ovf.i1", .none, .sequential, .conversion, .fixed 1 1⟩
  | .convOvfU1 => ⟨0xb4, "conv.ovf.u1", .none, .sequential, .conversion, .fixed 1 1⟩
  | .convOvfI2 => ⟨0xb5, "conv.ovf.i2", .none, .sequential, .conversion, .fixed 1 1⟩
  | .convOvfU2 => ⟨0xb6, "conv.ovf.u2", .none, .sequential, .conversion, .fixed 1 1⟩
  | .convOvfI4 => ⟨0xb7, "conv.ovf.i4", .none, .sequential, .conversion, .fixed 1 1⟩
  | .convOvfU4 => ⟨0xb8, "conv.ovf.u4", .none, .sequential, .conversion, .fixed 1 1⟩
  | .convOvfI8 => ⟨0xb9, "conv.ovf.i8", .none, .sequential, .conversion, .fixed 1 1⟩
  | .convOvfU8 => ⟨0xba, "conv.ovf.u8", .none, .sequential, .conversion, .fixed 1 1⟩
  | .refanyval => ⟨0xc2, "refanyval", .type, .sequential, .objectModel, .fixed 1 1⟩
  | .ckfinite => ⟨0xc3, "ckfinite", .none, .sequential, .arithmetic, .fixed 1 1⟩
  | .mkrefany => ⟨0xc6, "mkrefany", .type, .sequential, .objectModel, .fixed 1 1⟩
  | .ldtoken => ⟨0xd0, "ldtoken", .token, .sequential, .objectModel, .fixed 0 1⟩
  | .convU2 => ⟨0xd1, "conv.u2", .none, .sequential, .conversion, .fixed 1 1⟩
  | .convU1 => ⟨0xd2, "conv.u1", .none, .sequential, .conversion, .fixed 1 1⟩
  | .convI => ⟨0xd3, "conv.i", .none, .sequential, .conversion, .fixed 1 1⟩
  | .convOvfI => ⟨0xd4, "conv.ovf.i", .none, .sequential, .conversion, .fixed 1 1⟩
  | .convOvfU => ⟨0xd5, "conv.ovf.u", .none, .sequential, .conversion, .fixed 1 1⟩
  | .addOvf => ⟨0xd6, "add.ovf", .none, .sequential, .arithmetic, .fixed 2 1⟩
  | .addOvfUn => ⟨0xd7, "add.ovf.un", .none, .sequential, .arithmetic, .fixed 2 1⟩
  | .mulOvf => ⟨0xd8, "mul.ovf", .none, .sequential, .arithmetic, .fixed 2 1⟩
  | .mulOvfUn => ⟨0xd9, "mul.ovf.un", .none, .sequential, .arithmetic, .fixed 2 1⟩
  | .subOvf => ⟨0xda, "sub.ovf", .none, .sequential, .arithmetic, .fixed 2 1⟩
  | .subOvfUn => ⟨0xdb, "sub.ovf.un", .none, .sequential, .arithmetic, .fixed 2 1⟩
  | .endfinally => ⟨0xdc, "endfinally", .none, .endFinally, .controlFlow, .fixed 0 0⟩
  | .leave => ⟨0xdd, "leave", .target, .leave, .controlFlow, .fixed 0 0⟩
  | .leaveS => ⟨0xde, "leave.s", .target, .leave, .controlFlow, .fixed 0 0⟩
  | .stindI => ⟨0xdf, "stind.i", .none, .sequential, .loadStore, .fixed 2 0⟩
  | .convU => ⟨0xe0, "conv.u", .none, .sequential, .conversion, .fixed 1 1⟩
  | .arglist => ⟨0xfe00, "arglist", .none, .sequential, .misc, .fixed 0 1⟩
  | .ceq => ⟨0xfe01, "ceq", .none, .sequential, .comparison, .fixed 2 1⟩
  | .cgt => ⟨0xfe02, "cgt", .none, .sequential, .comparison, .fixed 2 1⟩
  | .cgtUn => ⟨0xfe03, "cgt.un", .none, .sequential, .comparison, .fixed 2 1⟩
  | .clt => ⟨0xfe04, "clt", .none, .sequential, .comparison, .fixed 2 1⟩
  | .cltUn => ⟨0xfe05, "clt.un", .none, .sequential, .comparison, .fixed 2 1⟩
  | .ldftn => ⟨0xfe06, "ldftn", .method, .sequential, .objectModel, .fixed 0 1⟩
  | .ldvirtftn => ⟨0xfe07, "ldvirtftn", .method, .sequential, .objectModel, .fixed 1 1⟩
  | .ldarg => ⟨0xfe09, "ldarg", .argument, .sequential, .loadStore, .fixed 0 1⟩
  | .ldarga => ⟨0xfe0a, "ldarga", .argument, .sequential, .loadStore, .fixed 0 1⟩
  | .starg => ⟨0xfe0b, "starg", .argument, .sequential, .loadStore, .fixed 1 0⟩
  | .ldloc => ⟨0xfe0c, "ldloc", .localSlot, .sequential, .loadStore, .fixed 0 1⟩
  | .ldloca => ⟨0xfe0d, "ldloca", .localSlot, .sequential, .loadStore, .fixed 0 1⟩
  | .stloc => ⟨0xfe0e, "stloc", .localSlot, .sequential, .loadStore, .fixed 1 0⟩
  | .localloc => ⟨0xfe0f, "localloc", .none, .sequential, .misc, .fixed 1 1⟩
  | .endfilter => ⟨0xfe11, "endfilter", .none, .endFinally, .controlFlow, .fixed 1 0⟩
  | .unaligned => ⟨0xfe12, "unaligned.", .uint8, .sequential, .modifier, .fixed 0 0⟩
  | .volatile => ⟨0xfe13, "volatile.", .none, .sequential, .modifier, .fixed 0 0⟩
  | .tail => ⟨0xfe14, "tail.", .none, .sequential, .modifier, .fixed 0 0⟩
  | .initobj => ⟨0xfe15, "initobj", .type, .sequential, .objectModel, .fixed 1 0⟩
  | .constrained => ⟨0xfe16, "constrained.", .type, .sequential, .modifier, .fixed 0 0⟩
  | .cpblk => ⟨0xfe17, "cpblk", .none, .sequential, .misc, .fixed 3 0⟩
  | .initblk => ⟨0xfe18, "initblk", .none, .sequential, .misc, .fixed 3 0⟩
  | .no => ⟨0xfe19, "no.", .uint8, .sequential, .modifier, .fixed 0 0⟩
  | .rethrow => ⟨0xfe1a, "rethrow", .none, .throw, .controlFlow, .fixed 0 0⟩
  | .sizeof => ⟨0xfe1c, "sizeof", .type, .sequential, .objectModel, .fixed 0 1⟩
  | .refanytype => ⟨0xfe1d, "refanytype", .none, .sequential, .objectModel, .fixed 1 1⟩
  | .readonly => ⟨0xfe1e, "readonly.", .none, .sequential, .modifier, .fixed 0 0⟩

def value (opcode : Opcode) : UInt16 := opcode.info.value

def mnemonic (opcode : Opcode) : String := opcode.info.mnemonic

def operandKind (opcode : Opcode) : OperandKind := opcode.info.operand

def flow (opcode : Opcode) : Flow := opcode.info.flow

def category (opcode : Opcode) : Category := opcode.info.category

def effect (opcode : Opcode) : OpcodeEffect := opcode.info.effect

/-- Whether the encoding is the escape byte and a second byte. -/
def isTwoByte (opcode : Opcode) : Bool := 0xfe00 ≤ opcode.value

/-- How the opcode reaches its callee, for the opcodes that take arguments by a signature. -/
def callShape? (opcode : Opcode) : Option CallShape :=
  match opcode.effect with
  | .call shape => some shape
  | _ => none

/-- Whether the stack effect follows from the signature of a callee. -/
def isCall (opcode : Opcode) : Bool := opcode.callShape?.isSome

/-- The number of values taken from the stack, where the opcode alone decides it. -/
def pops? (opcode : Opcode) : Option Nat :=
  match opcode.effect with
  | .fixed pops _ => some pops
  | .ret => none
  | .call _ => none

/-- The number of values left on the stack, where the opcode alone decides it. -/
def pushes? (opcode : Opcode) : Option Nat :=
  match opcode.effect with
  | .fixed _ pushes => some pushes
  | .ret => some 0
  | .call _ => none

end Opcode

end CilEdit
