import CilEdit.Matcher.Basic

/-! Windows: runs of instructions that are accepted, one by one, by the matchers of a pattern. The
search forward finds the first window from a place on, the search backward the last one that starts
before a place. A window lies wholly inside the code, and the empty pattern has none. -/

namespace CilEdit

/-- A pattern: one matcher for each instruction of a run. -/
abbrev Pattern := List Matcher

/-- A run of instructions that a pattern accepted. -/
structure Window where
  start : Nat
  /-- the index after the last instruction -/
  stop : Nat
  /-- what the matchers recorded, in their order -/
  captures : Captures

namespace Window

def length (window : Window) : Nat := window.stop - window.start

def isEmpty (window : Window) : Bool := window.start == window.stop

/-- The extent of the window as diagnostics show it. -/
def rangeText (window : Window) : String := s!"{window.start}..{window.stop}"

end Window

namespace Pattern

/-- What the matchers record on the first instructions of the code, when they accept all of them. -/
def check? : Pattern → Code → Option Captures
  | [], _ => some []
  | _ :: _, [] => none
  | matcher :: matchers, instruction :: code =>
    match matcher.check? instruction with
    | none => none
    | some captures => (check? matchers code).map fun rest => captures ++ rest

/-- The window at the head of the code, which starts at `index`. -/
def windowAt? (pattern : Pattern) (index : Nat) (code : Code) : Option Window :=
  (pattern.check? code).map fun captures => ⟨index, index + pattern.length, captures⟩

/-- The first window in the code, which starts at `index`. -/
def firstFrom? (pattern : Pattern) (index : Nat) : Code → Option Window
  | [] => none
  | instruction :: code =>
    match pattern.windowAt? index (instruction :: code) with
    | some window => some window
    | none => pattern.firstFrom? (index + 1) code

/-- The last window in the code that starts before `limit`, where the code starts at `index`. -/
def lastFrom? (pattern : Pattern) (limit index : Nat) : Code → Option Window
  | [] => none
  | instruction :: code =>
    if index < limit then
      match pattern.lastFrom? limit (index + 1) code with
      | some window => some window
      | none => pattern.windowAt? index (instruction :: code)
    else none

def description (pattern : Pattern) : String :=
  ", ".intercalate (pattern.map Matcher.description)

end Pattern

namespace Code

/-- The first window that starts at `start` or later. -/
def findWindow? (code : Code) (pattern : Pattern) (start : Nat) : Option Window :=
  if pattern.isEmpty then none else pattern.firstFrom? start (code.drop start)

/-- The last window that starts before `limit`. It may reach beyond. -/
def findLastWindow? (code : Code) (pattern : Pattern) (limit : Nat) : Option Window :=
  if pattern.isEmpty then none else pattern.lastFrom? limit 0 code

end Code

end CilEdit
