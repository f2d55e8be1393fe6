import CilEdit.Cursor.Edit
import CilEdit.LogEntry

/-! What is logged about an operation on a cursor, given the cursor before and after it. Beyond the
ends of the code nothing happens and nothing is logged. -/

namespace CilEdit.Cursor

/-- The entries about an operation at the current instruction. -/
def logAt (before : Cursor) (entries : Nat → List LogEntry) : List LogEntry :=
  match before.index? with
  | none => []
  | some index => entries index

def seekForwardLog (pattern : Pattern) (before after : Cursor) : List LogEntry :=
  before.logAt fun index =>
    match after.lastMatch with
    | some window =>
      let found := s!"matched {window.rangeText}, cursor at {after.position}"
      [.debug s!"seek forward from {index} {found}"]
    | none => [.debug s!"seek forward from {index} found no match for [{pattern.description}]"]

def seekBackwardLog (pattern : Pattern) (before after : Cursor) : List LogEntry :=
  before.logAt fun index =>
    match after.lastMatch with
    | some window => [.debug s!"seek backward from {index} matched {window.rangeText}"]
    | none => [.debug s!"seek backward from {index} found no match for [{pattern.description}]"]

/-- The entries about a move to a producer: only a value without one is worth a word. -/
def seekProducerLog (above : Nat) (before after : Cursor) : List LogEntry :=
  before.logAt fun index =>
    if after.position = -1 then [.debug s!"no producer for stack position {above} before {index}"]
    else []

def insertBeforeLog (fragment : Code) (before _after : Cursor) : List LogEntry :=
  before.logAt fun index =>
    [.debug s!"inserted {fragment.length} instruction(s) before {index}"]

def insertInPlaceLog (fragment : Code) (before _after : Cursor) : List LogEntry :=
  before.logAt fun index =>
    [.debug s!"inserted {fragment.length} instruction(s) at {index}"]

/-- The entries about a removal. Labels that are lost deserve a warning. -/
def removeLog (before after : Cursor) : List LogEntry :=
  before.logAt fun index =>
    let lost := before.code.labels.length
    let warning : List LogEntry :=
      if after.code.isEmpty && lost != 0 then
        [.warn s!"removed every instruction, dropping {lost} label(s)"]
      else []
    let removed := before.length - after.length
    warning ++ [.debug s!"removed {removed} instruction(s) at {index}"]

def replaceLog (fragment : Code) (before after : Cursor) : List LogEntry :=
  match fragment, before.current? with
  | [], _ => removeLog before after
  | fragment, some current =>
    before.logAt fun index =>
      [.debug
        s!"replaced {current.mnemonic} at {index} with {fragment.length} instruction(s)"]
  | _, none => []

end CilEdit.Cursor
