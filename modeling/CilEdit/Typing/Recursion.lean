import CilEdit.Typing.Rule

/-! The type of the value that an instruction pushes, by recursion on what stands before it. Every
value that an instruction takes its type from was produced or stored earlier, so the recursion goes
back towards the start of the code. -/

namespace CilEdit

/-- The answer that `ask` gives for the producer of a value on the stack at the end of the trail.
The value is untyped when it has no producer. -/
def Trail.through (trail : Trail) (above : Nat)
    (ask : (site : Site) → site.index < trail.length → Except Unsupported (Option TypeSig)) :
    Except Unsupported (Option TypeSig) :=
  match h : trail.producer? above with
  | .error failure => .error failure
  | .ok none => .ok none
  | .ok (some site) => ask site (Trail.index_lt_of_producer? h)

/-- The answer that `ask` gives for the value stored last into a local variable, or else the
declared type of the variable. -/
def Trail.throughStore (trail : Trail) (method : Method) (slot : Slot)
    (ask : (site : Site) → site.index < trail.length → Except Unsupported (Option TypeSig)) :
    Except Unsupported (Option TypeSig) :=
  match h : trail.lastStore? slot with
  | none => .ok (method.localType? slot)
  | some store => do
    let stored ← store.earlier.through 0 fun site hsite =>
      ask site (Nat.lt_trans hsite (Trail.index_lt_of_lastStore? h))
    return stored.or (method.localType? slot)

/-- The type of the value that the instruction at `site` pushes in `method`, or nothing where there
is no telling. It fails where the walk back to a producer crosses an instruction without a stack
effect. -/
def Site.pushedType (method : Method) (site : Site) : Except Unsupported (Option TypeSig) :=
  match site.instruction.typeSource method with
  | .known type => .ok type
  | .top => site.earlier.through 0 fun producer _ => producer.pushedType method
  | .operands => do
    match ← site.earlier.through 1 fun producer _ => producer.pushedType method with
    | some type => return some type
    | none => site.earlier.through 0 fun producer _ => producer.pushedType method
  | .element => do
    let array ← site.earlier.through 1 fun producer _ => producer.pushedType method
    return some (TypeSig.loadedElement array)
  | .slot slot => site.earlier.throughStore method slot fun producer _ => producer.pushedType method
  | .slotAddress slot => do
    let type ← site.earlier.throughStore method slot fun producer _ => producer.pushedType method
    return type.map .byRef
termination_by site.index
decreasing_by all_goals simpa [Site.index] using ‹_›

end CilEdit
