import CilEdit.Proofs.Session.Step
import CilEdit.Proofs.Unmarked.Cursor

/-! Sessions on code without its exception region markers. An operation that does not look at markers
answers, edits and logs the same with and without them, so a whole history does. Two sessions on code
that differs in markers only can therefore not be told apart by what such operations say, and the code
that they leave differs in markers only. -/

namespace CilEdit

/-- The answer without markers. -/
def Answer.unmarked : Answer → Answer
  | .instruction found => .instruction (found.map Instruction.unmarked)
  | .code found => .code found.unmarked
  | .window found => .window (found.map Window.unmarked)
  | .capture found => .capture (found.map Capture.unmarked)
  | answer => answer

namespace Command

/-- The operation with code without markers. -/
def unmarked : Command → Command
  | .insertBefore fragment => .insertBefore fragment.unmarked
  | .insertInPlace fragment => .insertInPlace fragment.unmarked
  | .replace fragment => .replace fragment.unmarked
  | .replaceRebased donorMethod donor => .replaceRebased donorMethod donor.unmarked
  | .modifyCurrent change =>
    .modifyCurrent fun instruction => (change instruction.unmarked).unmarked
  | command => command

/-- Whether the operation does not look at markers. -/
def Blind : Command → Prop
  | .seekForward pattern | .seekForwardToEnd pattern | .seekBackward pattern => pattern.Blind
  | .modifyCurrent change => ∀ instruction : Instruction,
      (change instruction.unmarked).unmarked = (change instruction).unmarked
  | _ => True

/-- Whether neither operation looks at markers and both are the same but for the markers in the code
that they put in. -/
structure Alike (first second : Command) : Prop where
  first_blind : first.Blind
  second_blind : second.Blind
  unmarked_eq : first.unmarked = second.unmarked

variable {command : Command} (h : command.Blind) (method : Method) (cursor : Cursor)

include h

theorem onCursor_unmarked :
    command.unmarked.onCursor method cursor.unmarked =
      (command.onCursor method cursor).map Cursor.unmarked := by
  cases command with
  | seekRelative offset => exact congrArg some (cursor.unmarked_seekRelative offset).symm
  | seekTo position => exact congrArg some (cursor.unmarked_seekTo position).symm
  | seekForward pattern => exact congrArg some (cursor.unmarked_seekForward h).symm
  | seekForwardToEnd pattern => exact congrArg some (cursor.unmarked_seekForwardToEnd h).symm
  | seekBackward pattern => exact congrArg some (cursor.unmarked_seekBackward h).symm
  | seekProducer above =>
      change (seekProducer above).onCursor method cursor.unmarked = _
      rw [onCursor, onCursor, cursor.unmarked_seekProducer]
      cases cursor.seekProducer above <;> rfl
  | insertBefore fragment => exact congrArg some (cursor.unmarked_insertBefore fragment).symm
  | insertInPlace fragment => exact congrArg some (cursor.unmarked_insertInPlace fragment).symm
  | replace fragment => exact congrArg some (cursor.unmarked_replace fragment).symm
  | replaceRebased donorMethod donor =>
      rw [unmarked, onCursor, onCursor, cursor.code_unmarked, Scope.rebase_unmarked]
      cases ((Scope.forBody method cursor.code).rebase donor donorMethod).result with
      | error failure => rfl
      | ok fragment => exact congrArg some (cursor.unmarked_replace fragment).symm
  | remove count => exact congrArg some (cursor.unmarked_remove count).symm
  | modifyCurrent change => exact congrArg some (cursor.unmarked_modifyCurrent h).symm
  | _ => rfl

omit h in
theorem answer_unmarked :
    command.unmarked.answer method cursor.unmarked =
      (command.answer method cursor).map Answer.unmarked := by
  cases command with
  | seekProducer above =>
      change (seekProducer above).answer method cursor.unmarked = _
      rw [answer, answer, cursor.unmarked_seekProducer]
      cases cursor.seekProducer above <;> rfl
  | replaceRebased donorMethod donor =>
      simp only [unmarked, answer, cursor.code_unmarked, Scope.rebase_unmarked]
      cases ((Scope.forBody method cursor.code).rebase donor donorMethod).result <;> rfl
  | modifyCurrent | isValid =>
      exact congrArg (fun valid => Except.ok (Answer.truth valid)) cursor.isValid_unmarked
  | current =>
      exact congrArg (fun found => Except.ok (Answer.instruction found)) cursor.current?_unmarked
  | lastCapture name =>
      refine congrArg (fun found => Except.ok (Answer.capture found)) ?_
      rw [Cursor.unmarked]
      cases cursor.lastMatch with
      | none => rfl
      | some window => exact window.captures.find?_unmarked name
  | stackType above =>
      change (stackType above).answer method cursor.unmarked = _
      rw [answer, answer, cursor.stackType_unmarked]
      cases cursor.stackType method above <;> rfl
  | length =>
      exact congrArg (fun length => Except.ok (Answer.length length)) cursor.length_unmarked
  | isEmpty =>
      exact congrArg (fun empty => Except.ok (Answer.truth empty)) cursor.code.isEmpty_unmarked
  | _ => rfl

theorem entries_unmarked :
    command.unmarked.entries method cursor.unmarked = command.entries method cursor := by
  cases command with
  | seekForward pattern =>
      change Cursor.seekForwardLog pattern cursor.unmarked _ = _
      rw [← cursor.unmarked_seekForward h]
      exact cursor.seekForwardLog_unmarked pattern _
  | seekForwardToEnd pattern =>
      change Cursor.seekForwardLog pattern cursor.unmarked _ = _
      rw [← cursor.unmarked_seekForwardToEnd h]
      exact cursor.seekForwardLog_unmarked pattern _
  | seekBackward pattern =>
      change Cursor.seekBackwardLog pattern cursor.unmarked _ = _
      rw [← cursor.unmarked_seekBackward h]
      exact cursor.seekBackwardLog_unmarked pattern _
  | seekProducer above =>
      change (seekProducer above).entries method cursor.unmarked = _
      rw [entries, entries, cursor.unmarked_seekProducer]
      cases cursor.seekProducer above with
      | error failure => rfl
      | ok after => exact cursor.seekProducerLog_unmarked above after
  | insertBefore fragment =>
      change Cursor.insertBeforeLog fragment.unmarked cursor.unmarked
        (cursor.unmarked.insertBefore fragment.unmarked) = _
      rw [← cursor.unmarked_insertBefore]
      exact cursor.insertBeforeLog_unmarked fragment (cursor.insertBefore fragment)
  | insertInPlace fragment =>
      change Cursor.insertInPlaceLog fragment.unmarked cursor.unmarked
        (cursor.unmarked.insertInPlace fragment.unmarked) = _
      rw [← cursor.unmarked_insertInPlace]
      exact cursor.insertInPlaceLog_unmarked fragment (cursor.insertInPlace fragment)
  | replace fragment =>
      change Cursor.replaceLog fragment.unmarked cursor.unmarked _ = _
      rw [← cursor.unmarked_replace]
      exact cursor.replaceLog_unmarked fragment _
  | replaceRebased donorMethod donor =>
      simp only [unmarked, entries, cursor.code_unmarked, Scope.rebase_unmarked,
        Rebased.log_unmarked]
      cases ((Scope.forBody method cursor.code).rebase donor donorMethod).result with
      | error failure => rfl
      | ok fragment =>
          simp only [Except.map, ← cursor.unmarked_replace, cursor.replaceLog_unmarked]
  | remove count =>
      change Cursor.removeLog cursor.unmarked _ = _
      rw [← cursor.unmarked_remove]
      exact cursor.removeLog_unmarked _
  | _ => rfl

end Command

/-! ### Histories -/

namespace Session

/-- The session on the code without its markers. -/
def unmarked (session : Session) : Session :=
  ⟨session.cursor.map Cursor.unmarked, session.log⟩

/-- The answers of some operations, each performed whatever came of those before it. -/
def answers (method : Method) : Session → List Command → List (Except EditError Answer)
  | _, [] => []
  | session, command :: history =>
    ((command.perform method).run session).1 :: answers method (session.after method command) history

variable (method : Method) (session : Session)

theorem run_perform_unmarked {command : Command} (h : command.Blind) :
    (command.unmarked.perform method).run session.unmarked =
      (((command.perform method).run session).1.map Answer.unmarked,
        (session.after method command).unmarked) := by
  obtain ⟨cursor, log⟩ := session
  cases cursor with
  | none => cases command <;> rfl
  | some cursor =>
      rw [unmarked, Option.map_some, Command.run_perform, after, Command.run_perform,
        Command.answer_unmarked, Command.onCursor_unmarked h, Command.entries_unmarked h]
      rfl

theorem after_unmarked {command : Command} (h : command.Blind) :
    session.unmarked.after method command.unmarked = (session.after method command).unmarked := by
  rw [after, run_perform_unmarked method session h]

variable {history : List Command} (h : ∀ command ∈ history, command.Blind)

include h

/-- With and without markers a history comes to the same session but for the markers. -/
theorem afterAll_unmarked :
    session.unmarked.afterAll method (history.map Command.unmarked) =
      (session.afterAll method history).unmarked := by
  induction history generalizing session with
  | nil => rfl
  | cons command history ih =>
      obtain ⟨hcommand, hhistory⟩ := List.forall_mem_cons.mp h
      have hrest := ih (session.after method command) hhistory
      rwa [← after_unmarked method session hcommand] at hrest

/-- With and without markers a history has the same answers but for the markers. -/
theorem answers_unmarked :
    session.unmarked.answers method (history.map Command.unmarked) =
      (session.answers method history).map (Except.map Answer.unmarked) := by
  induction history generalizing session with
  | nil => rfl
  | cons command history ih =>
      obtain ⟨hcommand, hhistory⟩ := List.forall_mem_cons.mp h
      rw [List.map_cons, answers, answers, List.map_cons, after_unmarked method session hcommand,
        run_perform_unmarked method session hcommand, ih _ hhistory]

end Session

/-- What the analyses and the searches tell of two pieces of code is the same but for markers. -/
structure Code.Indistinguishable (method : Method) (first second : Code) : Prop where
  producer : ∀ index above, first.producer? index above = second.producer? index above
  pushedType : ∀ index, first.pushedType method index = second.pushedType method index
  stackType : ∀ index above,
    first.stackType method index above = second.stackType method index above
  findWindow : ∀ pattern : Pattern, pattern.Blind → ∀ start,
    (first.findWindow? pattern start).map Window.unmarked =
      (second.findWindow? pattern start).map Window.unmarked
  findLastWindow : ∀ pattern : Pattern, pattern.Blind → ∀ limit,
    (first.findLastWindow? pattern limit).map Window.unmarked =
      (second.findLastWindow? pattern limit).map Window.unmarked
  forBody : Scope.forBody method first = Scope.forBody method second
  rebase : ∀ {σ τ : Type} [LocalAllocator σ] [LabelAllocator τ] (locals : σ) (labels : τ),
    (CilEdit.rebase first method locals labels).result.map Code.unmarked =
        (CilEdit.rebase second method locals labels).result.map Code.unmarked ∧
      (CilEdit.rebase first method locals labels).names =
        (CilEdit.rebase second method locals labels).names

theorem Code.Alike.indistinguishable {first second : Code} (h : first.Alike second)
    (method : Method) : Code.Indistinguishable method first second where
  producer index above := by
    rw [← first.producer?_unmarked, unmarked_eq_iff.mpr h, second.producer?_unmarked]
  pushedType index := by
    rw [← first.pushedType_unmarked, unmarked_eq_iff.mpr h, second.pushedType_unmarked]
  stackType index above := by
    rw [← first.stackType_unmarked, unmarked_eq_iff.mpr h, second.stackType_unmarked]
  findWindow pattern hpattern start := by
    rw [← first.findWindow?_unmarked hpattern, unmarked_eq_iff.mpr h,
      second.findWindow?_unmarked hpattern]
  findLastWindow pattern hpattern limit := by
    rw [← first.findLastWindow?_unmarked hpattern, unmarked_eq_iff.mpr h,
      second.findLastWindow?_unmarked hpattern]
  forBody := by
    rw [← Scope.forBody_unmarked, unmarked_eq_iff.mpr h, Scope.forBody_unmarked]
  rebase locals labels := by
    have hfirst := rebase_unmarked first method locals labels
    have hsecond := rebase_unmarked second method locals labels
    rw [unmarked_eq_iff.mpr h, hsecond] at hfirst
    injection hfirst with hresult hnames
    exact ⟨hresult.symm, hnames.symm⟩

/-- Code that is the same but for markers cannot be told apart by operations that do not look at them:
whatever markers the code that they put in has, at every step they have the same answers, and what is
left is the same but for markers and has the same log. Neither can it be told apart by the analyses and
the searches, nor by rebasing it, which takes the same identifiers. -/
theorem Session.answers_of_alike (method : Method) {first second : Code} (h : first.Alike second)
    {history other : List Command} (hhistory : List.Forall₂ Command.Alike history other) :
    ((start first).answers method history).map (Except.map Answer.unmarked) =
        ((start second).answers method other).map (Except.map Answer.unmarked) ∧
      ((start first).afterAll method history).unmarked =
        ((start second).afterAll method other).unmarked ∧
      Code.Indistinguishable method first second := by
  have hstart : (start first).unmarked = (start second).unmarked := by
    simp only [start, unmarked, Cursor.start, Option.map_some, Cursor.unmarked,
      Code.unmarked_eq_iff.mpr h]
  have hmap : history.map Command.unmarked = other.map Command.unmarked :=
    List.forall₂_eq_eq_eq ▸ List.forall₂_map_left_iff.mpr (List.forall₂_map_right_iff.mpr
      (hhistory.imp fun _ _ halike => halike.unmarked_eq))
  have hblind : ∀ command ∈ history, command.Blind :=
    ((List.forall₂_and_left _ _).mp (hhistory.imp fun _ _ halike => ⟨halike.first_blind, halike⟩)).1
  have hother : ∀ command ∈ other, command.Blind :=
    ((List.forall₂_and_left _ _).mp
      (hhistory.flip.imp fun _ _ halike => ⟨halike.second_blind, halike⟩)).1
  refine ⟨?_, ?_, h.indistinguishable method⟩
  · rw [← answers_unmarked method _ hblind, ← answers_unmarked method _ hother, hstart, hmap]
  · rw [← afterAll_unmarked method _ hblind, ← afterAll_unmarked method _ hother, hstart, hmap]

/-- A search, an edit with a marked fragment, a removal and two questions, with markers and without
them. The markers that the session has in the end differ. -/
theorem Session.answers_of_alike_region :
    let method : Method := ⟨.object, "Next", ⟨.plain, [], .void⟩, []⟩
    let opened : Marker := ⟨.beginTry, none⟩
    let closed : Marker := ⟨.endRegion, none⟩
    let first : Code := [(Instruction.make .ldnull).withMarker opened, .make .pop,
      Instruction.ret.withMarker closed]
    let second : Code := [.make .ldnull, .make .pop, .ret]
    let edits (fragment : Code) : List Command :=
      [.seekForward [.opcode .pop], .insertInPlace fragment, .remove 2]
    let history (fragment : Code) : List Command :=
      edits fragment ++ [.stackType 0, .current, .release]
    let marked : Code := [(Instruction.make .nop).withMarker opened]
    let plain : Code := [.make .nop]
    first.Alike second ∧ List.Forall₂ Command.Alike (history marked) (history plain) ∧
      ((start first).answers method (history marked)).map (Except.map Answer.unmarked) =
        ((start second).answers method (history plain)).map (Except.map Answer.unmarked) ∧
      ((start first).afterAll method (edits marked)).cursor.map
          (fun cursor => cursor.code.markers) = some [opened, opened, closed] ∧
      ((start second).afterAll method (edits plain)).cursor.map
          (fun cursor => cursor.code.markers) = some [] := by
  intro method opened closed first second edits history marked plain
  have hcode : first.Alike second :=
    .cons ⟨rfl, rfl, rfl⟩ (.cons ⟨rfl, rfl, rfl⟩ (.cons ⟨rfl, rfl, rfl⟩ .nil))
  have hpattern : Pattern.Blind [.opcode .pop] :=
    List.forall_mem_singleton.mpr (Matcher.blind_of_readyMade (.opcode .pop))
  have hhistory : List.Forall₂ Command.Alike (history marked) (history plain) :=
    .cons ⟨hpattern, hpattern, rfl⟩ (.cons ⟨trivial, trivial, rfl⟩ (.cons ⟨trivial, trivial, rfl⟩
      (.cons ⟨trivial, trivial, rfl⟩ (.cons ⟨trivial, trivial, rfl⟩
        (.cons ⟨trivial, trivial, rfl⟩ .nil)))))
  exact ⟨hcode, hhistory, (answers_of_alike method hcode hhistory).1, by decide, by decide⟩

end CilEdit
