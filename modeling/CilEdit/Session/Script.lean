import CilEdit.Session.Basic

/-! Scripts: the operations of a session as data, so that an edit can be written down and performed
later. Each operation has an answer; a script is performed until one of its operations fails. -/

namespace CilEdit

/-- An operation of a session. -/
inductive Command where
  | seekRelative (offset : Int)
  | seekTo (position : Int)
  | seekForward (pattern : Pattern)
  | seekForwardToEnd (pattern : Pattern)
  /-- move to the start of the last window that starts before this place -/
  | seekBackward (pattern : Pattern)
  | seekProducer (above : Nat)
  | insertBefore (fragment : Code)
  /-- insert and make the fragment current -/
  | insertInPlace (fragment : Code)
  | replace (fragment : Code)
  /-- replace the current instruction by code of another method -/
  | replaceRebased (donorMethod : Method) (donor : Code)
  | remove (count : Nat)
  | modifyCurrent (change : Instruction → Instruction)
  /-- hand the code back -/
  | release
  | current
  | position
  | length
  | isEmpty
  | isValid
  | code
  | lastMatch
  | lastCapture (name : String)
  | stackType (above : Nat)

inductive Answer where
  | done
  | truth (value : Bool)
  | instruction (value : Option Instruction)
  | position (value : Int)
  | length (value : Nat)
  | code (value : Code)
  | window (value : Option Window)
  | capture (value : Option Capture)
  | type (value : Option TypeSig)
  /-- fresh local variables with their types -/
  | locals (value : List (Slot × Option TypeSig))

namespace Command

/-- Performs an operation on the code of `method`. -/
def perform (method : Method) : Command → Edit Answer
  | .seekRelative offset => do Edit.seekRelative offset; return .done
  | .seekTo target => do Edit.seekTo target; return .done
  | .seekForward pattern => do Edit.seekForward pattern; return .done
  | .seekForwardToEnd pattern => do Edit.seekForwardToEnd pattern; return .done
  | .seekBackward pattern => do Edit.seekBackward pattern; return .done
  | .seekProducer above => do Edit.seekProducer above; return .done
  | .insertBefore fragment => do Edit.insertBefore fragment; return .done
  | .insertInPlace fragment => do Edit.insertInPlace fragment; return .done
  | .replace fragment => do Edit.replace fragment; return .done
  | .replaceRebased donorMethod donor => do
    return .locals (← Edit.replaceRebased method donorMethod donor)
  | .remove count => do Edit.remove count; return .done
  | .modifyCurrent change => return .truth (← Edit.modifyCurrent change)
  | .release => return .code (← Edit.release)
  | .current => return .instruction (← Edit.cursor).current?
  | .position => return .position (← Edit.cursor).position
  | .length => return .length (← Edit.cursor).length
  | .isEmpty => return .truth (← Edit.cursor).code.isEmpty
  | .isValid => return .truth (← get).isValid
  | .code => return .code (← Edit.cursor).code
  | .lastMatch => return .window (← get).lastMatch
  | .lastCapture name => return .capture ((← get).lastCapture name)
  | .stackType above => do
    let cursor ← Edit.cursor
    return .type (← Edit.take (cursor.stackType method above))

end Command

abbrev Script := List Command

def Script.perform (method : Method) (script : Script) : Edit Unit :=
  script.forM fun command => do let _ ← command.perform method

end CilEdit
