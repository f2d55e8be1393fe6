/-! Log entries. Edits do not write a log themselves: what they report is a value beside their
result. -/

namespace CilEdit

inductive LogLevel where
  | debug
  | warn
  deriving DecidableEq

/-- One line of a log. -/
structure LogEntry where
  level : LogLevel
  text : String
  deriving DecidableEq

def LogEntry.debug (text : String) : LogEntry := ⟨.debug, text⟩

def LogEntry.warn (text : String) : LogEntry := ⟨.warn, text⟩

end CilEdit
