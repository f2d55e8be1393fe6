import CilEdit.Session.Basic
import CilEdit.Text.Outline

/-! Patches: named edits of the methods that pass a filter. A patch works on a session of its own
over the code of a method, so that what it does to the code counts only if it is kept. -/

namespace CilEdit

/-- A method with its code. -/
structure MethodBody where
  method : Method
  code : Code

/-- What a patch reports about its anchor. -/
inductive Outcome where
  /-- the anchor was found: the edits are to be kept -/
  | applied
  /-- there is no anchor: the edits are to be dropped -/
  | anchorNotFound
  deriving DecidableEq

/-- The outcome that a session speaks for: its anchor was found if an instruction is current. -/
def Session.outcome (session : Session) : Outcome :=
  if session.isValid then .applied else .anchorNotFound

/-- A named edit. -/
structure Patch where
  name : String
  /-- the class or value type that has to declare the method, if it matters -/
  owner : Option String
  /-- the name that the method has to have, if it matters -/
  methodName : Option String
  transform : Method → Edit Outcome

namespace Patch

/-- Whether the declaring type has the name that is asked for. Only a class or a value type can. -/
def ownerMatches (patch : Patch) (owner : TypeSig) : Bool :=
  match patch.owner, owner with
  | none, _ => true
  | some wanted, .classType name => name == wanted
  | some wanted, .valueType name => name == wanted
  | some _, _ => false

/-- Whether the filter lets a method pass. -/
def appliesTo (patch : Patch) (method : Method) : Bool :=
  patch.ownerMatches method.owner && patch.methodName.all fun wanted => method.name == wanted

/-- The edit, and the code that it leaves. It fails when the edit itself handed the code back. -/
def edit (patch : Patch) (method : Method) : Edit (Outcome × Code) := do
  let outcome ← patch.transform method
  return (outcome, ← Edit.release)

/-- Runs the edit on the code of a method: its outcome and the edited code, and the session after
it. -/
def run (patch : Patch) (body : MethodBody) : Except EditError (Outcome × Code) × Session :=
  (patch.edit body.method).run (.start body.code)

/-- The outline of a patch. Its edit is not shown. -/
def outline (patch : Patch) : String :=
  Outline.record "Patch" [("name", Text.quoted patch.name),
    ("declaring_type", Outline.optional (patch.owner.map Text.quoted)),
    ("method_name", Outline.optional (patch.methodName.map Text.quoted))] true

end Patch

end CilEdit
