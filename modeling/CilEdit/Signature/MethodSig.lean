import CilEdit.Signature.TypeSig

/-! Calling conventions and method signatures. A convention is a byte of flags. Bits without a name
are kept as they are, so that a signature read from elsewhere is written back unchanged. -/

namespace CilEdit

/-- The flags of a calling convention. -/
structure CallConv where
  bits : UInt8
  deriving DecidableEq

namespace CallConv

def plain : CallConv := ⟨0⟩

/-- The arguments continue beyond the listed parameters. -/
def vararg : CallConv := ⟨0x05⟩

/-- The method has type parameters of its own. -/
def generic : CallConv := ⟨0x10⟩

def hasThis : CallConv := ⟨0x20⟩

/-- The receiver is listed among the parameters. -/
def explicitThis : CallConv := ⟨0x40⟩

def contains (convention flag : CallConv) : Bool := convention.bits &&& flag.bits == flag.bits

def union (left right : CallConv) : CallConv := ⟨left.bits ||| right.bits⟩

/-- All named flags in the order in which they are listed. -/
def named : List (String × CallConv) :=
  [("VARARG", vararg), ("GENERIC", generic), ("HAS_THIS", hasThis), ("EXPLICIT_THIS", explicitThis)]

/-- The named flags that are fully set. -/
def flags (convention : CallConv) : List (String × CallConv) :=
  named.filter fun flag => convention.contains flag.2

/-- The bits of all named flags. -/
def namedBits : UInt8 := named.foldl (fun bits flag => bits ||| flag.2.bits) 0

/-- The convention without the bits that no flag names. -/
def truncate (convention : CallConv) : CallConv := ⟨convention.bits &&& namedBits⟩

/-- Whether every set bit belongs to a named flag. -/
def isKnown (convention : CallConv) : Bool := convention.truncate == convention

/-- The bits that no fully set flag accounts for. -/
def unnamedBits (convention : CallConv) : UInt8 :=
  convention.flags.foldl (fun bits flag => bits &&& ~~~flag.2.bits) convention.bits

end CallConv

/-- The signature of a method or of a call site. -/
structure MethodSig where
  convention : CallConv
  /-- the listed parameters in order -/
  params : List TypeSig
  result : TypeSig
  deriving DecidableEq

namespace MethodSig

/-- Whether a receiver is passed in front of the listed parameters. -/
def hasImplicitThis (signature : MethodSig) : Bool :=
  signature.convention.contains .hasThis && !signature.convention.contains .explicitThis

/-- Whether a call leaves nothing on the stack. -/
def returnsVoid (signature : MethodSig) : Bool := signature.result.isVoid

def arity (signature : MethodSig) : Nat :=
  signature.params.length + (if signature.hasImplicitThis then 1 else 0)

/-- The parameter list in assembly text. -/
def paramsText (signature : MethodSig) : String :=
  "(" ++ ", ".intercalate (signature.params.map TypeSig.text) ++ ")"

def text (signature : MethodSig) : String :=
  (if signature.hasImplicitThis then "instance " else "") ++
    signature.result.text ++ " " ++ signature.paramsText

end MethodSig

end CilEdit
