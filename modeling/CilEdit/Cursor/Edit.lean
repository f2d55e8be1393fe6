import CilEdit.Cursor.Basic

/-! Edits at a cursor. Labels and exception region markers that lose their instruction are handed
on: when an instruction is replaced, to the first instruction that takes its place; when
instructions are removed, to the next instruction that stays, or to the one before if they were the
last. They are put in front of what the heir already has. Only when no instruction is left are they
lost. -/

namespace CilEdit

/-- Puts labels and markers in front of those of the instruction. -/
def Instruction.inherit (instruction : Instruction) (labels : List Label)
    (markers : List Marker) : Instruction :=
  { instruction with
    labels := labels ++ instruction.labels, markers := markers ++ instruction.markers }

namespace Code

def labels (code : Code) : List Label := code.flatMap Instruction.labels

def markers (code : Code) : List Marker := code.flatMap Instruction.markers

/-- Hands labels and markers to the first instruction, if there is one. -/
def bequeathFirst (labels : List Label) (markers : List Marker) : Code → Code
  | [] => []
  | heir :: rest => heir.inherit labels markers :: rest

/-- Hands labels and markers to the last instruction, if there is one. -/
def bequeathLast (labels : List Label) (markers : List Marker) : Code → Code
  | [] => []
  | [heir] => [heir.inherit labels markers]
  | instruction :: rest => instruction :: bequeathLast labels markers rest

/-- Puts a fragment in front of the instruction at `index`. -/
def insertAt (code : Code) (index : Nat) (fragment : Code) : Code :=
  code.take index ++ fragment ++ code.drop index

/-- Removes up to `count` instructions from `index` on. -/
def removeAt (code : Code) (index count : Nat) : Code :=
  let kept : Code := code.take index
  let removed : Code := (code.drop index).take count
  let rest : Code := code.drop (index + count)
  if rest.isEmpty then kept.bequeathLast removed.labels removed.markers
  else kept ++ rest.bequeathFirst removed.labels removed.markers

/-- Puts a fragment in the place of the instruction at `index`. -/
def replaceAt (code : Code) (index : Nat) (fragment : Code) : Code :=
  let removed : Code := (code.drop index).take 1
  code.take index ++ fragment.bequeathFirst removed.labels removed.markers ++
    code.drop (index + 1)

end Code

namespace Cursor

/-- Puts a fragment in front of the current instruction, which stays current. -/
def insertBefore (cursor : Cursor) (fragment : Code) : Cursor :=
  match cursor.index? with
  | none => cursor
  | some index =>
    { cursor with
      code := cursor.code.insertAt index fragment, position := index + fragment.length }

/-- Puts a fragment in front of the current instruction; its first instruction becomes current. -/
def insertInPlace (cursor : Cursor) (fragment : Code) : Cursor :=
  match cursor.index? with
  | none => cursor
  | some index => { cursor with code := cursor.code.insertAt index fragment }

/-- Removes up to `count` instructions from the current one on. The position stays, so that the next
instruction that is left becomes current. -/
def remove (cursor : Cursor) (count : Nat) : Cursor :=
  match cursor.index? with
  | none => cursor
  | some index => { cursor with code := cursor.code.removeAt index count }

/-- Puts a fragment in the place of the current instruction; its first instruction becomes current.
To replace an instruction by nothing is to remove it. -/
def replace (cursor : Cursor) (fragment : Code) : Cursor :=
  match cursor.index?, fragment with
  | none, _ => cursor
  | some _, [] => cursor.remove 1
  | some index, fragment => { cursor with code := cursor.code.replaceAt index fragment }

def modifyCurrent (cursor : Cursor) (change : Instruction → Instruction) : Cursor :=
  match cursor.index? with
  | none => cursor
  | some index => { cursor with code := cursor.code.modify index change }

end Cursor

end CilEdit
