import CilEdit.Session.Script

/-! What one operation of a session comes to: what it makes of the cursor, its answer and what it logs.
All three are functions of the cursor, so performing an operation is an equation. An operation that
fails leaves the cursor as it was, and handing the code back leaves none. After that only the questions
that need no code are answered. -/

namespace CilEdit

namespace Edit

variable {α β : Type}

/-- A step that fails ends the rest, and the session stays as the step left it. -/
theorem run_bind (step : Edit α) (next : α → Edit β) (session : Session) :
    (step >>= next).run session =
      match step.run session with
      | (.ok value, later) => (next value).run later
      | (.error failure, later) => (.error failure, later) := by
  have hrun : (step >>= next).run session =
      (fun outcome : Except EditError α × Session =>
        (ExceptT.bindCont next outcome.1).run outcome.2) (step.run session) := rfl
  rw [hrun]
  rcases step.run session with ⟨_ | _, later⟩ <;> rfl

theorem run_cursor (cursor : Cursor) (log : List LogEntry) :
    Edit.cursor.run ⟨some cursor, log⟩ = (.ok cursor, ⟨some cursor, log⟩) := rfl

theorem run_take (found : Except Unsupported α) (session : Session) :
    (take found).run session = (found.mapError .unsupported, session) := by
  cases found <;> rfl

theorem run_record (entries : List LogEntry) (session : Session) :
    (record entries).run session = (.ok (), { session with log := session.log ++ entries }) := rfl

end Edit

/-- The session after an operation, whether it succeeds or not. -/
def Session.after (method : Method) (session : Session) (command : Command) : Session :=
  ((command.perform method).run session).2

/-- The session after some operations, each performed whatever came of those before it. -/
def Session.afterAll (method : Method) (session : Session) (history : List Command) : Session :=
  history.foldl (Session.after method) session

namespace Command

/-- What the operation makes of the cursor. -/
def onCursor (method : Method) (cursor : Cursor) : Command → Option Cursor
  | .seekRelative offset => some (cursor.seekRelative offset)
  | .seekTo target => some (cursor.seekTo target)
  | .seekForward pattern => some (cursor.seekForward pattern)
  | .seekForwardToEnd pattern => some (cursor.seekForwardToEnd pattern)
  | .seekBackward pattern => some (cursor.seekBackward pattern)
  | .seekProducer above =>
    match cursor.seekProducer above with
    | .ok after => some after
    | .error _ => some cursor
  | .insertBefore fragment => some (cursor.insertBefore fragment)
  | .insertInPlace fragment => some (cursor.insertInPlace fragment)
  | .replace fragment => some (cursor.replace fragment)
  | .replaceRebased donorMethod donor =>
    match ((Scope.forBody method cursor.code).rebase donor donorMethod).result with
    | .ok fragment => some (cursor.replace fragment)
    | .error _ => some cursor
  | .remove count => some (cursor.remove count)
  | .modifyCurrent change => some (cursor.modifyCurrent change)
  | .release => none
  | _ => some cursor

/-- The answer of an operation. -/
def answer (method : Method) (cursor : Cursor) : Command → Except EditError Answer
  | .seekProducer above =>
    ((cursor.seekProducer above).map fun _ => .done).mapError .unsupported
  | .replaceRebased donorMethod donor =>
    let rebased := (Scope.forBody method cursor.code).rebase donor donorMethod
    (rebased.result.map fun _ => .locals rebased.scope.locals.allocated).mapError .unsupported
  | .modifyCurrent _ | .isValid => .ok (.truth cursor.isValid)
  | .release | .code => .ok (.code cursor.code)
  | .current => .ok (.instruction cursor.current?)
  | .position => .ok (.position cursor.position)
  | .length => .ok (.length cursor.length)
  | .isEmpty => .ok (.truth cursor.code.isEmpty)
  | .lastMatch => .ok (.window cursor.lastMatch)
  | .lastCapture name =>
    .ok (.capture (cursor.lastMatch.bind fun window => window.captures.find? name))
  | .stackType above => ((cursor.stackType method above).map .type).mapError .unsupported
  | _ => .ok .done

/-- What an operation logs. -/
def entries (method : Method) (cursor : Cursor) : Command → List LogEntry
  | .seekForward pattern => Cursor.seekForwardLog pattern cursor (cursor.seekForward pattern)
  | .seekForwardToEnd pattern =>
    Cursor.seekForwardLog pattern cursor (cursor.seekForwardToEnd pattern)
  | .seekBackward pattern => Cursor.seekBackwardLog pattern cursor (cursor.seekBackward pattern)
  | .seekProducer above =>
    match cursor.seekProducer above with
    | .ok after => Cursor.seekProducerLog above cursor after
    | .error _ => []
  | .insertBefore fragment =>
    Cursor.insertBeforeLog fragment cursor (cursor.insertBefore fragment)
  | .insertInPlace fragment =>
    Cursor.insertInPlaceLog fragment cursor (cursor.insertInPlace fragment)
  | .replace fragment => Cursor.replaceLog fragment cursor (cursor.replace fragment)
  | .replaceRebased donorMethod donor =>
    let rebased := (Scope.forBody method cursor.code).rebase donor donorMethod
    rebased.log donorMethod ++
      match rebased.result with
      | .ok fragment => Cursor.replaceLog fragment cursor (cursor.replace fragment)
      | .error _ => []
  | .remove count => Cursor.removeLog cursor (cursor.remove count)
  | _ => []

/-- Whether the operation needs the code. The others have an answer also once it is handed back. -/
def needsCode : Command → Bool
  | .isValid | .lastMatch | .lastCapture _ => false
  | _ => true

/-- An operation while the session has the code. -/
theorem run_perform (method : Method) (cursor : Cursor) (log : List LogEntry) (command : Command) :
    (command.perform method).run ⟨some cursor, log⟩ =
      (command.answer method cursor,
        ⟨command.onCursor method cursor, log ++ command.entries method cursor⟩) := by
  have hsilent : log ++ [] = log := List.append_nil log
  cases command with
  | seekProducer above =>
      rw [perform, answer, onCursor, entries, Edit.seekProducer, Edit.run_bind, Edit.run_bind,
        Edit.run_cursor]
      simp only
      rw [Edit.run_bind, Edit.run_take]
      cases cursor.seekProducer above with
      | error failure => exact congrArg (fun log => (_, Session.mk _ log)) hsilent.symm
      | ok after => rfl
  | replaceRebased donorMethod donor =>
      rw [perform, answer, onCursor, entries, Edit.replaceRebased, Edit.run_bind, Edit.run_bind,
        Edit.run_cursor]
      simp only
      rw [Edit.run_bind, Edit.run_record]
      simp only
      rw [Edit.run_bind, Edit.run_take, ← List.append_assoc]
      cases ((Scope.forBody method cursor.code).rebase donor donorMethod).result with
      | error failure =>
          exact congrArg (fun log => (_, Session.mk _ log)) (List.append_nil _).symm
      | ok fragment => rfl
  | stackType above =>
      change _ = (_, Session.mk (some cursor) (log ++ []))
      rw [perform, answer, hsilent, Edit.run_bind, Edit.run_cursor]
      simp only
      rw [Edit.run_bind, Edit.run_take]
      cases cursor.stackType method above <;> rfl
  | _ => first | rfl | exact congrArg (fun log => (_, Session.mk _ log)) hsilent.symm

/-- An operation after the code was handed back. -/
theorem run_perform_released (method : Method) (log : List LogEntry) {command : Command}
    (h : command.needsCode) :
    (command.perform method).run ⟨none, log⟩ = (.error .released, ⟨none, log⟩) := by
  cases command <;> first | rfl | cases h

/-- An operation that fails leaves the cursor as it is. -/
theorem onCursor_of_answer {method : Method} {cursor : Cursor} {command : Command}
    {error : EditError} (h : command.answer method cursor = .error error) :
    command.onCursor method cursor = some cursor := by
  cases command with
  | seekProducer above =>
      rw [answer] at h
      rw [onCursor]
      cases hseek : cursor.seekProducer above with
      | error failure => rfl
      | ok after => rw [hseek] at h; cases h
  | replaceRebased donorMethod donor =>
      simp only [answer] at h
      rw [onCursor]
      cases hresult : ((Scope.forBody method cursor.code).rebase donor donorMethod).result with
      | error failure => rfl
      | ok fragment => rw [hresult] at h; cases h
  | stackType above => rfl
  | _ => cases h

end Command

namespace Session

theorem cursor_after (method : Method) (session : Session) (command : Command) :
    (session.after method command).cursor =
      session.cursor.bind fun cursor => command.onCursor method cursor := by
  obtain ⟨cursor, log⟩ := session
  cases cursor with
  | none => cases command <;> rfl
  | some cursor =>
      rw [after, Command.run_perform]
      rfl

theorem eq_of_cursor {session : Session} {cursor : Option Cursor} (h : session.cursor = cursor) :
    session = ⟨cursor, session.log⟩ := by
  rw [← h]

theorem cursor_after_of_onCursor {method : Method} {session : Session} {cursor next : Cursor}
    {command : Command} (hcursor : session.cursor = some cursor)
    (hnext : command.onCursor method cursor = some next) :
    (session.after method command).cursor = some next := by
  rw [cursor_after, hcursor, Option.bind_some, hnext]

end Session

end CilEdit
