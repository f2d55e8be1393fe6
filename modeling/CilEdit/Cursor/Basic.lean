import CilEdit.Typing.Query
import CilEdit.Window

/-! Cursors: some code with a position in it. The position is the index of an instruction, or one of
the two places beyond the ends, `-1` and the length of the code. Beyond the ends nothing is current:
there every operation but an absolute seek leaves the cursor as it is. A search that finds nothing
goes beyond an end, so a chain of operations whose anchor is missing does nothing from then on. -/

namespace CilEdit

/-- Code that is being edited, at a position. -/
structure Cursor where
  code : Code
  /-- the index of the current instruction, or a place beyond an end -/
  position : Int
  /-- the window found by the last search, in the code as it was then -/
  lastMatch : Option Window

namespace Cursor

/-- A cursor on the first instruction. -/
def start (code : Code) : Cursor := ⟨code, 0, none⟩

def length (cursor : Cursor) : Nat := cursor.code.length

/-- The index of the current instruction. -/
def index? (cursor : Cursor) : Option Nat :=
  if 0 ≤ cursor.position ∧ cursor.position < cursor.length then some cursor.position.toNat
  else none

def isValid (cursor : Cursor) : Bool := cursor.index?.isSome

def current? (cursor : Cursor) : Option Instruction :=
  cursor.index?.bind fun index => cursor.code[index]?

/-- The type of the value below `above` others on the stack, as it is just before the current
instruction runs. Beyond the ends there is none. -/
def stackType (cursor : Cursor) (method : Method) (above : Nat) :
    Except Unsupported (Option TypeSig) :=
  match cursor.index? with
  | none => .ok none
  | some index => cursor.code.stackType method index above

/-- The place nearest to `position` that a cursor in code of the given length can have. -/
def clamp (length : Nat) (position : Int) : Int := max (-1) (min position length)

/-! ### Moving -/

/-- Moves by `offset`, and no farther than just beyond the ends. -/
def seekRelative (cursor : Cursor) (offset : Int) : Cursor :=
  match cursor.index? with
  | none => cursor
  | some _ => { cursor with position := clamp cursor.length (cursor.position + offset) }

/-- Moves to a position, also from beyond the ends. -/
def seekTo (cursor : Cursor) (position : Int) : Cursor :=
  { cursor with position := clamp cursor.length position }

/-- Moves to the place that `target` picks in the first window from the current instruction on, or
beyond the end of the code if there is no window. -/
def seekWindow (cursor : Cursor) (pattern : Pattern) (target : Window → Nat) : Cursor :=
  match cursor.index? with
  | none => cursor
  | some index =>
    match cursor.code.findWindow? pattern index with
    | some window => { cursor with position := target window, lastMatch := some window }
    | none => { cursor with position := cursor.length, lastMatch := none }

/-- Moves to the start of the first window from the current instruction on. -/
def seekForward (cursor : Cursor) (pattern : Pattern) : Cursor :=
  cursor.seekWindow pattern Window.start

/-- Moves just behind the first window from the current instruction on. -/
def seekForwardToEnd (cursor : Cursor) (pattern : Pattern) : Cursor :=
  cursor.seekWindow pattern Window.stop

/-- Moves to the start of the last window that starts before the current instruction, or beyond the
start of the code if there is no window. -/
def seekBackward (cursor : Cursor) (pattern : Pattern) : Cursor :=
  match cursor.index? with
  | none => cursor
  | some index =>
    match cursor.code.findLastWindow? pattern index with
    | some window => { cursor with position := window.start, lastMatch := some window }
    | none => { cursor with position := -1, lastMatch := none }

/-- Moves to the instruction that produced the value below `above` others on the stack, as it is
just before the current instruction runs, or beyond the start of the code if there is none. -/
def seekProducer (cursor : Cursor) (above : Nat) : Except Unsupported Cursor :=
  match cursor.index? with
  | none => .ok cursor
  | some index =>
    match cursor.code.producer? index above with
    | .error failure => .error failure
    | .ok (some producer) => .ok { cursor with position := producer }
    | .ok none => .ok { cursor with position := -1 }

end Cursor

end CilEdit
