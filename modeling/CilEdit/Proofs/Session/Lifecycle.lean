import CilEdit.Proofs.Cursor.Range
import CilEdit.Proofs.Session.Step

/-! What holds in every session, whatever was done in it before. As long as it has the code, the position
is that of an instruction or just beyond an end, and a relative move leads exactly as far as the code
allows. An operation that fails leaves the code, the position and the last match as they were. From the
moment when the code is handed back nothing is current, nothing is matched, and every operation that
needs the code fails. -/

namespace CilEdit

/-- One operation keeps the position in its range. -/
theorem Command.inRange_onCursor {method : Method} {cursor next : Cursor} {command : Command}
    (h : cursor.InRange) (hnext : command.onCursor method cursor = some next) : next.InRange := by
  cases command with
  | seekRelative offset => cases hnext; exact Cursor.inRange_seekRelative h offset
  | seekTo target => cases hnext; exact cursor.inRange_seekTo target
  | seekForward pattern =>
      cases hnext
      exact Cursor.inRange_seekWindow h pattern fun _ hinside => Nat.le_of_lt hinside.start_lt
  | seekForwardToEnd pattern =>
      cases hnext
      exact Cursor.inRange_seekWindow h pattern fun _ hinside => hinside.stop_le
  | seekBackward pattern => cases hnext; exact Cursor.inRange_seekBackward h pattern
  | seekProducer above =>
      rw [onCursor] at hnext
      cases hseek : cursor.seekProducer above with
      | error failure => rw [hseek] at hnext; cases hnext; exact h
      | ok reached =>
          rw [hseek] at hnext
          cases hnext
          exact Cursor.inRange_seekProducer h hseek
  | insertBefore fragment => cases hnext; exact Splice.inRange_perform h .insertBefore fragment
  | insertInPlace fragment => cases hnext; exact Splice.inRange_perform h .insertInPlace fragment
  | replace fragment => cases hnext; exact Splice.inRange_perform h .replace fragment
  | replaceRebased donorMethod donor =>
      rw [onCursor] at hnext
      cases hresult : ((Scope.forBody method cursor.code).rebase donor donorMethod).result with
      | error failure => rw [hresult] at hnext; cases hnext; exact h
      | ok fragment =>
          rw [hresult] at hnext
          cases hnext
          exact Splice.inRange_perform h .replace fragment
  | remove count => cases hnext; exact Cursor.inRange_remove h count
  | modifyCurrent change => cases hnext; exact Cursor.inRange_modifyCurrent h change
  | release => cases hnext
  | _ => cases hnext; exact h

namespace Session

variable (method : Method) {session : Session} {cursor : Cursor}

theorem afterAll_append (session : Session) (earlier later : List Command) :
    session.afterAll method (earlier ++ later) =
      (session.afterAll method earlier).afterAll method later :=
  List.foldl_append

theorem inRange_after (h : ∀ cursor, session.cursor = some cursor → cursor.InRange)
    (command : Command) (hcursor : (session.after method command).cursor = some cursor) :
    cursor.InRange := by
  rw [cursor_after] at hcursor
  obtain ⟨before, hbefore, hnext⟩ := Option.bind_eq_some_iff.mp hcursor
  exact Command.inRange_onCursor (h before hbefore) hnext

theorem inRange_afterAll (h : ∀ cursor, session.cursor = some cursor → cursor.InRange)
    (history : List Command) (hcursor : (session.afterAll method history).cursor = some cursor) :
    cursor.InRange := by
  induction history generalizing session with
  | nil => exact h cursor hcursor
  | cons command history ih =>
      exact ih (fun _ hnext => inRange_after method h command hnext) hcursor

/-- The code does not come back. -/
theorem cursor_afterAll_of_none (h : session.cursor = none) (history : List Command) :
    (session.afterAll method history).cursor = none := by
  induction history generalizing session with
  | nil => exact h
  | cons command history ih =>
      apply ih
      rw [cursor_after, h]
      rfl

theorem cursor_after_release (session : Session) :
    (session.after method .release).cursor = none := by
  rw [cursor_after]
  cases session.cursor <;> rfl

theorem cursor_after_of_error {command : Command} {error : EditError}
    (h : ((command.perform method).run session).1 = .error error) :
    (session.after method command).cursor = session.cursor := by
  obtain ⟨cursor, log⟩ := session
  rw [cursor_after]
  cases cursor with
  | none => rfl
  | some cursor =>
      rw [Command.run_perform] at h
      exact Command.onCursor_of_answer h

/-- Every session that begins with some code and goes on with any operations, failing ones among them,
has its position in range, moves exactly, keeps its cursor through failures and ends for good with the
first release. A relative move may count in 64 bits and cut the sum: it comes to the same place. -/
theorem lawful_afterAll (method : Method) (code : Code) (history : List Command) :
    let session := (start code).afterAll method history
    (∀ cursor, session.cursor = some cursor → cursor.InRange ∧
      ∀ index, cursor.index? = some index →
        (∀ offset : Int, ((Command.seekRelative offset).perform method).run session = (.ok .done,
          ⟨some ⟨cursor.code, max (-1) (min (index + offset) cursor.length), cursor.lastMatch⟩,
            session.log⟩)) ∧
        (∀ offset : Int64, (cursor.length : Int) ≤ Int64.maxValue.toInt →
          (cursor.seekRelative offset.toInt).position = Cursor.clamp cursor.length
            (Int64.ofIntClamp (cursor.position + offset.toInt)).toInt)) ∧
    (∀ (command : Command) error, ((command.perform method).run session).1 = .error error →
      (session.after method command).cursor = session.cursor) ∧
    (∀ earlier later, history = earlier ++ .release :: later →
      session.isValid = false ∧ session.lastMatch = none ∧
        ∀ command : Command, command.needsCode →
          (command.perform method).run session = (.error .released, session)) := by
  intro session
  refine ⟨fun cursor hcursor => ⟨?_, fun index hindex => ⟨fun offset => ?_, fun offset hlength => ?_⟩⟩,
    fun command error herror => cursor_after_of_error method herror, ?_⟩
  · refine inRange_afterAll method (fun first hfirst => ?_) history hcursor
    cases hfirst
    exact Cursor.inRange_start code
  · have hrun : ((Command.seekRelative offset).perform method).run ⟨some cursor, session.log⟩ =
        (.ok .done, ⟨some (cursor.seekRelative offset), session.log ++ []⟩) :=
      Command.run_perform method cursor session.log (.seekRelative offset)
    rw [eq_of_cursor hcursor, hrun, Cursor.seekRelative_eq hindex, List.append_nil]
    rfl
  · rw [Cursor.clamp_ofIntClamp hlength, Cursor.seekRelative_eq hindex,
      (Cursor.index?_eq_some_iff.mp hindex).1]
    rfl
  · rintro earlier later rfl
    have hnone : session.cursor = none := by
      refine Eq.trans (congrArg Session.cursor (afterAll_append method _ earlier _)) ?_
      exact cursor_afterAll_of_none method (cursor_after_release method _) later
    rw [eq_of_cursor hnone]
    exact ⟨rfl, rfl, fun command hcommand => Command.run_perform_released method _ hcommand⟩

/-- Behind a call of nothing: the walk back to the producer fails, the farthest move to the front leads
just beyond the code, and handing the code back ends the session. -/
theorem lawful_afterAll_bare_call :
    let method : Method := ⟨.object, "Next", ⟨.plain, [], .void⟩, []⟩
    let code : Code := [.make .call, .make .pop]
    let session := (start code).afterAll method [.seekTo 1]
    let ended := (start code).afterAll method [.seekTo 1, .release, .length]
    (session.after method (.seekProducer 0)).cursor = session.cursor ∧
      (session.after method (.seekRelative Int64.minValue.toInt)).cursor.map Cursor.position =
        some (-1) ∧
      ((Command.remove 1).perform method).run ended = (.error .released, ended) := by
  intro method code session ended
  have hcursor : session.cursor = some ⟨code, 1, none⟩ := rfl
  have hfails : (((Command.seekProducer 0).perform method).run session).1 =
      .error (.unsupported ⟨.call, .none⟩) := rfl
  obtain ⟨hmoves, hkeeps, -⟩ := lawful_afterAll method code [.seekTo 1]
  obtain ⟨-, -, hends⟩ := lawful_afterAll method code [.seekTo 1, .release, .length]
  have hmove := ((hmoves _ hcursor).2 1 rfl).1 Int64.minValue.toInt
  refine ⟨hkeeps _ _ hfails, ?_, (hends [.seekTo 1] [.length] rfl).2.2 (.remove 1) rfl⟩
  rw [after, hmove]
  rfl

end Session

end CilEdit
