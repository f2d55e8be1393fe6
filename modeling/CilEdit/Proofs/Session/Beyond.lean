import CilEdit.Proofs.Session.Lifecycle

/-! Sessions whose cursor stands beyond an end of the code. There every operation that starts from where
the cursor stands has an answer, changes nothing and logs nothing, so a chain of such operations does
nothing from the moment when the cursor gets there. A search that finds nothing gets it there: what
follows a missing anchor never touches the code. -/

namespace CilEdit

namespace Command

/-- Whether the operation starts from where the cursor stands. An absolute move does not, nor does
handing the code back, nor the rebasing of other code, which needs no position. -/
def isRelative : Command → Bool
  | .seekTo _ | .release | .replaceRebased .. => false
  | _ => true

/-- The answer beyond the ends: nothing is current there, so nothing is changed and nothing has a
type. -/
def idleAnswer (cursor : Cursor) : Command → Answer
  | .modifyCurrent _ | .isValid => .truth false
  | .current => .instruction none
  | .stackType _ => .type none
  | .position => .position cursor.position
  | .length => .length cursor.length
  | .isEmpty => .truth cursor.code.isEmpty
  | .code => .code cursor.code
  | .lastMatch => .window cursor.lastMatch
  | .lastCapture name =>
    .capture (cursor.lastMatch.bind fun window => window.captures.find? name)
  | _ => .done

/-- Whether the operation is a search, of a window or of a producer, and finds nothing. Beyond the ends
it finds nothing because it does not search. -/
def FindsNothing (cursor : Cursor) : Command → Prop
  | .seekForward pattern | .seekForwardToEnd pattern =>
    ∀ index, cursor.index? = some index → cursor.code.findWindow? pattern index = none
  | .seekBackward pattern =>
    ∀ index, cursor.index? = some index → cursor.code.findLastWindow? pattern index = none
  | .seekProducer above =>
    ∀ index, cursor.index? = some index → cursor.code.producer? index above = .ok none
  | _ => False

section Beyond

variable {cursor : Cursor} (h : cursor.index? = none) (method : Method) {command : Command}
  (hrelative : command.isRelative)

include h hrelative in
theorem answer_of_beyond : command.answer method cursor = .ok (command.idleAnswer cursor) := by
  cases command with
  | seekTo | release | replaceRebased => cases hrelative
  | seekProducer above => simp only [answer, Cursor.seekProducer, h]; rfl
  | stackType above => simp only [answer, Cursor.stackType, h]; rfl
  | modifyCurrent | isValid => simp only [answer, Cursor.isValid, h]; rfl
  | current => simp only [answer, Cursor.current?, h]; rfl
  | _ => rfl

include h hrelative in
theorem onCursor_of_beyond : command.onCursor method cursor = some cursor := by
  cases command with
  | seekTo | release | replaceRebased => cases hrelative
  | seekRelative offset => simp only [onCursor, Cursor.seekRelative, h]
  | seekForward pattern => simp only [onCursor, Cursor.seekForward, Cursor.seekWindow, h]
  | seekForwardToEnd pattern => simp only [onCursor, Cursor.seekForwardToEnd, Cursor.seekWindow, h]
  | seekBackward pattern => simp only [onCursor, Cursor.seekBackward, h]
  | seekProducer above => simp only [onCursor, Cursor.seekProducer, h]
  | insertBefore fragment => exact congrArg some (Splice.insertBefore.perform_of_index?_eq_none h _)
  | insertInPlace fragment =>
      exact congrArg some (Splice.insertInPlace.perform_of_index?_eq_none h _)
  | replace fragment => exact congrArg some (Splice.replace.perform_of_index?_eq_none h _)
  | remove count => simp only [onCursor, Cursor.remove, h]
  | modifyCurrent change => simp only [onCursor, Cursor.modifyCurrent, h]
  | _ => rfl

include h hrelative in
theorem entries_of_beyond : command.entries method cursor = [] := by
  have hlog : ∀ entries, cursor.logAt entries = [] := fun entries => by rw [Cursor.logAt, h]
  cases command with
  | seekTo | release | replaceRebased => cases hrelative
  | seekForward | seekForwardToEnd | seekBackward | insertBefore | insertInPlace | remove =>
      exact hlog _
  | seekProducer above =>
      simp only [entries, Cursor.seekProducer, h]
      exact hlog _
  | replace fragment =>
      cases fragment with
      | nil => exact hlog _
      | cons heir rest => simp only [entries, Cursor.replaceLog, Cursor.current?, h, Option.bind_none]
  | _ => rfl

include h hrelative in
/-- Beyond the ends an operation that starts from there has an answer and changes nothing. -/
theorem run_perform_of_beyond (log : List LogEntry) :
    (command.perform method).run ⟨some cursor, log⟩ =
      (.ok (command.idleAnswer cursor), ⟨some cursor, log⟩) := by
  rw [run_perform, answer_of_beyond h method hrelative, onCursor_of_beyond h method hrelative,
    entries_of_beyond h method hrelative, List.append_nil]

end Beyond

theorem isRelative_of_findsNothing {cursor : Cursor} {command : Command}
    (h : command.FindsNothing cursor) : command.isRelative := by
  cases command <;> first | rfl | exact h.elim

theorem exists_onCursor {command : Command} (h : command.isRelative) (method : Method)
    (cursor : Cursor) : ∃ next, command.onCursor method cursor = some next := by
  cases command with
  | release | replaceRebased => cases h
  | seekProducer above =>
      rw [onCursor]
      cases cursor.seekProducer above <;> exact ⟨_, rfl⟩
  | _ => exact ⟨_, rfl⟩

/-- A search that finds nothing takes the cursor beyond an end and leaves the code. -/
theorem onCursor_of_findsNothing {cursor : Cursor} {command : Command}
    (h : command.FindsNothing cursor) (method : Method) :
    command.answer method cursor = .ok .done ∧
      ∃ next, command.onCursor method cursor = some next ∧ next.code = cursor.code ∧
        next.index? = none := by
  cases hindex : cursor.index? with
  | none =>
      have hrelative := isRelative_of_findsNothing h
      rw [answer_of_beyond hindex method hrelative]
      refine ⟨?_, cursor, onCursor_of_beyond hindex method hrelative, rfl, hindex⟩
      cases command <;> first | rfl | exact h.elim
  | some index =>
      cases command with
      | seekForward pattern =>
          refine ⟨rfl, _, rfl, cursor.code_seekWindow pattern _, Cursor.index?_eq_none_iff.mpr ?_⟩
          simp only [Cursor.seekForward, Cursor.seekWindow, hindex, h index hindex]
          exact Or.inr (Int.le_refl _)
      | seekForwardToEnd pattern =>
          refine ⟨rfl, _, rfl, cursor.code_seekWindow pattern _, Cursor.index?_eq_none_iff.mpr ?_⟩
          simp only [Cursor.seekForwardToEnd, Cursor.seekWindow, hindex, h index hindex]
          exact Or.inr (Int.le_refl _)
      | seekBackward pattern =>
          refine ⟨rfl, _, rfl, cursor.code_seekBackward pattern, Cursor.index?_eq_none_iff.mpr ?_⟩
          simp only [Cursor.seekBackward, hindex, h index hindex]
          exact Or.inl (by decide)
      | seekProducer above =>
          have hseek : cursor.seekProducer above = .ok { cursor with position := -1 } := by
            simp only [Cursor.seekProducer, hindex, h index hindex]
          have hneg : (-1 : Int) < 0 := by decide
          rw [answer, onCursor, hseek]
          exact ⟨rfl, _, rfl, rfl, Cursor.index?_eq_none_iff.mpr (Or.inl hneg)⟩
      | _ => exact h.elim

end Command

namespace Session

theorem afterAll_of_beyond {cursor : Cursor} (h : cursor.index? = none) (method : Method)
    (log : List LogEntry) {history : List Command}
    (hrelative : ∀ command ∈ history, command.isRelative) :
    (Session.mk (some cursor) log).afterAll method history = ⟨some cursor, log⟩ := by
  induction history with
  | nil => rfl
  | cons command history ih =>
      obtain ⟨hcommand, hhistory⟩ := List.forall_mem_cons.mp hrelative
      rw [afterAll, List.foldl_cons, after, Command.run_perform_of_beyond h method hcommand]
      exact ih hhistory

/-- Relative operations keep the code in the session. -/
theorem exists_cursor_afterAll (method : Method) (session : Session) {cursor : Cursor}
    (hcursor : session.cursor = some cursor) {history : List Command}
    (hrelative : ∀ command ∈ history, command.isRelative) :
    ∃ reached, (session.afterAll method history).cursor = some reached := by
  induction history generalizing session cursor with
  | nil => exact ⟨cursor, hcursor⟩
  | cons command history ih =>
      obtain ⟨hcommand, hhistory⟩ := List.forall_mem_cons.mp hrelative
      obtain ⟨next, hnext⟩ := Command.exists_onCursor hcommand method cursor
      exact ih _ (cursor_after_of_onCursor hcursor hnext) hhistory

/-- A chain of relative operations stops at the ends of the code. Once the cursor stands beyond an end,
the rest of the chain has answers and changes nothing, and the first search that finds nothing leaves
the code as it is in the end. -/
theorem afterAll_stops (method : Method) (cursor : Cursor) (log : List LogEntry)
    (earlier later : List Command)
    (hrelative : ∀ command ∈ earlier ++ later, command.isRelative) :
    let session : Session := ⟨some cursor, log⟩
    ∃ reached, (session.afterAll method earlier).cursor = some reached ∧
      (reached.position = -1 ∨ reached.position = reached.length →
        session.afterAll method (earlier ++ later) = session.afterAll method earlier ∧
        ∀ before command after, later = before ++ command :: after →
          (command.perform method).run (session.afterAll method (earlier ++ before)) =
            (.ok (command.idleAnswer reached), session.afterAll method earlier)) ∧
      ∀ seek after, later = seek :: after → seek.FindsNothing reached →
        ((seek.perform method).run (session.afterAll method earlier)).1 = .ok .done ∧
        (session.afterAll method (earlier ++ later)).cursor.map Cursor.code = some reached.code := by
  intro session
  obtain ⟨hearlier, hlater⟩ := List.forall_mem_append.mp hrelative
  obtain ⟨reached, hreached⟩ := exists_cursor_afterAll method session rfl hearlier
  have hsession := eq_of_cursor hreached
  refine ⟨reached, hreached, fun hbeyond => ?_, ?_⟩
  · have hindex : reached.index? = none := by
      rw [Cursor.index?_eq_none_iff]
      omega
    have hrest : ∀ part : List Command, (∀ command ∈ part, command.isRelative) →
        session.afterAll method (earlier ++ part) = session.afterAll method earlier := by
      intro part hpart
      rw [afterAll_append, hsession]
      exact afterAll_of_beyond hindex method _ hpart
    refine ⟨hrest later hlater, ?_⟩
    rintro before command after rfl
    obtain ⟨hbefore, hcommand⟩ := List.forall_mem_append.mp hlater
    rw [hrest before hbefore, hsession]
    exact Command.run_perform_of_beyond hindex method (hcommand command List.mem_cons_self) _
  · rintro seek after rfl hnothing
    obtain ⟨hanswer, next, hnext, hcode, hindex⟩ := Command.onCursor_of_findsNothing hnothing method
    obtain ⟨-, hafter⟩ := List.forall_mem_cons.mp hlater
    have hrun : (seek.perform method).run (session.afterAll method earlier) =
        (.ok .done, ⟨some next, (session.afterAll method earlier).log ++
          seek.entries method reached⟩) := by
      rw [hsession, Command.run_perform, hanswer, hnext]
    refine ⟨by rw [hrun], ?_⟩
    rw [afterAll_append, afterAll, List.foldl_cons, Session.after, hrun]
    have hrest := afterAll_of_beyond hindex method
      ((session.afterAll method earlier).log ++ seek.entries method reached) hafter
    rw [afterAll] at hrest
    rw [hrest, Option.map_some, hcode]

/-- A missing throw: of the chain only what stands before the search is done. -/
theorem afterAll_stops_missing_throw :
    let method : Method := ⟨.object, "Next", ⟨.plain, [], .void⟩, []⟩
    let session := start [.make .ldarg0, .ret]
    let earlier : List Command := [.insertBefore [.make .nop]]
    let seek : Command := .seekForward [.oneOf [.throw]]
    let later : List Command := [seek, .insertInPlace [.make .nop], .seekRelative (-1), .replace [],
      .remove 5]
    let reached : Cursor := ⟨[.make .nop, .make .ldarg0, .ret], 1, none⟩
    (∀ command ∈ earlier ++ later, command.isRelative) ∧
      (session.afterAll method earlier).cursor = some reached ∧ seek.FindsNothing reached ∧
      (session.afterAll method (earlier ++ later)).cursor.map Cursor.code = some reached.code := by
  intro method session earlier seek later reached
  have hrelative : ∀ command ∈ earlier ++ later, command.isRelative := by decide
  have hreached : (session.afterAll method earlier).cursor = some reached := rfl
  have hnothing : seek.FindsNothing reached := by
    intro index hindex
    cases hindex
    rfl
  obtain ⟨other, hother, -, hsearch⟩ :=
    afterAll_stops method (.start [.make .ldarg0, .ret]) [] earlier later hrelative
  cases hother.symm.trans hreached
  exact ⟨hrelative, hreached, hnothing, (hsearch seek _ rfl hnothing).2⟩

end Session

end CilEdit
