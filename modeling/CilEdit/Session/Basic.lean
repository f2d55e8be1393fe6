import CilEdit.Cursor.Log
import CilEdit.EditError
import CilEdit.Rebase.Basic

/-! Editing sessions: a cursor that can hand its code back once, and a log of what was done. After
the code is handed back every edit and every question about the code fails. An edit that fails
leaves the cursor as it was. -/

namespace CilEdit

/-- An editing session. -/
structure Session where
  /-- the cursor, until its code is handed back -/
  cursor : Option Cursor
  log : List LogEntry

/-- Steps of a session. A step that fails keeps what was done and logged before. -/
abbrev Edit := ExceptT EditError (StateM Session)

namespace Session

/-- A session on some code, with the first instruction current. -/
def start (code : Code) : Session := ⟨some (.start code), []⟩

def isValid (session : Session) : Bool := session.cursor.any Cursor.isValid

def lastMatch (session : Session) : Option Window := session.cursor.bind Cursor.lastMatch

def lastCapture (session : Session) (name : String) : Option Capture :=
  session.lastMatch.bind fun window => window.captures.find? name

end Session

namespace Edit

def cursor : Edit Cursor := do
  match (← get).cursor with
  | some cursor => return cursor
  | none => throw .released

def record (entries : List LogEntry) : Edit Unit :=
  modify fun session => { session with log := session.log ++ entries }

/-- Takes what was computed, or fails as it failed. -/
def take {α : Type} : Except Unsupported α → Edit α
  | .ok value => return value
  | .error failure => throw (.unsupported failure)

/-- Changes the cursor and logs what `log` tells of the cursor before and after. -/
def update (change : Cursor → Cursor) (log : Cursor → Cursor → List LogEntry) : Edit Unit := do
  let before ← cursor
  let after := change before
  set { (← get) with cursor := some after }
  record (log before after)

/-- The log of an operation that leaves no entry. -/
def silent (_before _after : Cursor) : List LogEntry := []

/-! ### Moving -/

def seekRelative (offset : Int) : Edit Unit := update (·.seekRelative offset) silent

def seekTo (position : Int) : Edit Unit := update (·.seekTo position) silent

def seekForward (pattern : Pattern) : Edit Unit :=
  update (·.seekForward pattern) (Cursor.seekForwardLog pattern)

def seekForwardToEnd (pattern : Pattern) : Edit Unit :=
  update (·.seekForwardToEnd pattern) (Cursor.seekForwardLog pattern)

def seekBackward (pattern : Pattern) : Edit Unit :=
  update (·.seekBackward pattern) (Cursor.seekBackwardLog pattern)

/-- Moves to the instruction that produced the value below `above` others on the stack. -/
def seekProducer (above : Nat) : Edit Unit := do
  let after ← take ((← cursor).seekProducer above)
  update (fun _ => after) (Cursor.seekProducerLog above)

/-! ### Changing the code -/

def insertBefore (fragment : Code) : Edit Unit :=
  update (·.insertBefore fragment) (Cursor.insertBeforeLog fragment)

def insertInPlace (fragment : Code) : Edit Unit :=
  update (·.insertInPlace fragment) (Cursor.insertInPlaceLog fragment)

def replace (fragment : Code) : Edit Unit :=
  update (·.replace fragment) (Cursor.replaceLog fragment)

def remove (count : Nat) : Edit Unit := update (·.remove count) Cursor.removeLog

/-- Changes the current instruction in place. The answer tells whether there was one. -/
def modifyCurrent (change : Instruction → Instruction) : Edit Bool := do
  let before ← cursor
  update (·.modifyCurrent change) silent
  return before.isValid

/-- Puts code of the method `donorMethod` in the place of the current instruction, with identifiers
that `method` and its code do not use. The answer lists the local variables that were given out,
with their types. -/
def replaceRebased (method donorMethod : Method) (donor : Code) :
    Edit (List (Slot × Option TypeSig)) := do
  let scope := Scope.forBody method (← cursor).code
  let rebased := scope.rebase donor donorMethod
  record (rebased.log donorMethod)
  replace (← take rebased.result)
  return rebased.scope.locals.allocated

def release : Edit Code := do
  let last ← cursor
  set { (← get) with cursor := none }
  return last.code

end Edit

end CilEdit
