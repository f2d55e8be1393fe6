import CilEdit.Proofs.Cursor.Edits
import CilEdit.Proofs.Session.Step

/-! Labels and exception region markers over a history of operations. As long as an instruction is
left, what is attached to the code is what was attached to it at first and what the fragments brought
that were put in. Once no instruction is left, none comes back. Code that is closed at first stays
closed if each fragment fits into the code that it is put into, so no jump ever loses its label. -/

namespace CilEdit

namespace Command

/-- Whether the operation neither changes an instruction in place nor hands the code back. -/
def isOrdinary : Command → Bool
  | .modifyCurrent _ | .release => false
  | _ => true

/-- The code that the operation is to put at the current instruction. -/
def fragment (method : Method) (cursor : Cursor) : Command → Code
  | .insertBefore fragment | .insertInPlace fragment | .replace fragment => fragment
  | .replaceRebased donorMethod donor =>
    match ((Scope.forBody method cursor.code).rebase donor donorMethod).result with
    | .ok fragment => fragment
    | .error _ => []
  | _ => []

/-- The code that the operation puts in. Beyond the ends it puts in nothing. -/
def insertion (method : Method) (cursor : Cursor) (command : Command) : Code :=
  if cursor.isValid then command.fragment method cursor else []

theorem edits_onCursor {command : Command} (h : command.isOrdinary) (method : Method)
    (cursor : Cursor) :
    ∃ next, command.onCursor method cursor = some next ∧
      cursor.Edits (command.insertion method cursor) next.code := by
  have hkeep : ∀ next : Cursor, next.code = cursor.code → command.fragment method cursor = [] →
      cursor.Edits (command.insertion method cursor) next.code := by
    intro next hcode hfragment
    rw [hcode, insertion, hfragment, ite_self]
    exact .keep rfl
  have hsplice : ∀ edit : Splice, cursor.Edits (command.insertion method cursor)
      (edit.perform cursor (command.fragment method cursor)).code := by
    intro edit
    cases hindex : cursor.index? with
    | none =>
        rw [edit.perform_of_index?_eq_none hindex, insertion, Cursor.isValid, hindex]
        exact .keep rfl
    | some index =>
        rw [insertion, Cursor.isValid, hindex]
        exact edit.edits_perform hindex _
  cases command with
  | modifyCurrent change => cases h
  | release => cases h
  | seekRelative offset => exact ⟨_, rfl, hkeep _ (cursor.code_seekRelative offset) rfl⟩
  | seekTo target => exact ⟨_, rfl, hkeep _ (cursor.code_seekTo target) rfl⟩
  | seekForward pattern => exact ⟨_, rfl, hkeep _ (cursor.code_seekWindow pattern _) rfl⟩
  | seekForwardToEnd pattern => exact ⟨_, rfl, hkeep _ (cursor.code_seekWindow pattern _) rfl⟩
  | seekBackward pattern => exact ⟨_, rfl, hkeep _ (cursor.code_seekBackward pattern) rfl⟩
  | seekProducer above =>
      rw [onCursor]
      cases hnext : cursor.seekProducer above with
      | error failure => exact ⟨_, rfl, hkeep _ rfl rfl⟩
      | ok next => exact ⟨_, rfl, hkeep _ (cursor.code_seekProducer hnext) rfl⟩
  | insertBefore fragment => exact ⟨_, rfl, hsplice .insertBefore⟩
  | insertInPlace fragment => exact ⟨_, rfl, hsplice .insertInPlace⟩
  | replace fragment => exact ⟨_, rfl, hsplice .replace⟩
  | replaceRebased donorMethod donor =>
      rw [onCursor]
      cases hresult : ((Scope.forBody method cursor.code).rebase donor donorMethod).result with
      | error failure =>
          refine ⟨_, rfl, hkeep _ rfl ?_⟩
          rw [fragment, hresult]
      | ok code =>
          have hedits := hsplice .replace
          rw [fragment, hresult] at hedits
          exact ⟨_, rfl, hedits⟩
  | remove count =>
      have hfragment : fragment method cursor (.remove count) = [] := rfl
      refine ⟨_, rfl, ?_⟩
      rw [insertion, hfragment, ite_self]
      exact cursor.edits_remove count
  | _ => exact ⟨_, rfl, hkeep _ rfl rfl⟩

end Command

namespace Session

/-- The code, until it is handed back. -/
def code? (session : Session) : Option Code := session.cursor.map Cursor.code

/-- The code that an operation puts in. -/
def insertion (method : Method) (session : Session) (command : Command) : Code :=
  match session.cursor with
  | none => []
  | some cursor => command.insertion method cursor

/-- All code that the operations put in. -/
def inserted (method : Method) (session : Session) : List Command → Code
  | [] => []
  | command :: history =>
    session.insertion method command ++ (session.after method command).inserted method history

/-- Whether each fragment fits into the code that it is put into. -/
def Fitting (method : Method) (session : Session) : List Command → Prop
  | [] => True
  | command :: history =>
    (∀ code, session.code? = some code → (session.insertion method command).Fits code) ∧
      (session.after method command).Fitting method history

theorem Fitting.of_append {method : Method} {earlier later : List Command} {session : Session}
    (h : session.Fitting method (earlier ++ later)) : session.Fitting method earlier := by
  induction earlier generalizing session with
  | nil => trivial
  | cons command earlier ih => exact ⟨h.1, ih h.2⟩

variable (method : Method) {session : Session} {code : Code}

/-! ### One operation -/

theorem edits_after {command : Command} (h : command.isOrdinary)
    (hcode : session.code? = some code) :
    ∃ (cursor : Cursor) (next : Code), cursor.code = code ∧
      (session.after method command).code? = some next ∧
      cursor.Edits (session.insertion method command) next := by
  obtain ⟨cursor, hcursor, rfl⟩ := Option.map_eq_some_iff.mp hcode
  obtain ⟨next, hnext, hedits⟩ := command.edits_onCursor h method cursor
  refine ⟨cursor, next.code, rfl, ?_, ?_⟩
  · rw [code?, cursor_after, hcursor, Option.bind_some, hnext, Option.map_some]
  · rw [insertion, hcursor]
    exact hedits

/-! ### Any number of operations -/

variable {history : List Command}

theorem code?_afterAll_of_nil (hordinary : ∀ command ∈ history, command.isOrdinary)
    (hcode : session.code? = some []) : (session.afterAll method history).code? = some [] := by
  induction history generalizing session with
  | nil => exact hcode
  | cons command history ih =>
      obtain ⟨hcommand, hhistory⟩ := List.forall_mem_cons.mp hordinary
      obtain ⟨cursor, next, hcursor, hnext, hedits⟩ := edits_after method hcommand hcode
      rw [hedits.eq_nil hcursor] at hnext
      exact ih hhistory hnext

theorem perm_afterAll {α : Type} {attached : Instruction → List α}
    (hattached : Instruction.HandsOn attached)
    (hordinary : ∀ command ∈ history, command.isOrdinary) (hcode : session.code? = some code) :
    ∃ reached, (session.afterAll method history).code? = some reached ∧
      (reached ≠ [] → (reached.flatMap attached).Perm
        (code.flatMap attached ++ (session.inserted method history).flatMap attached)) := by
  induction history generalizing session code with
  | nil =>
      refine ⟨code, hcode, fun _ => ?_⟩
      rw [inserted, List.flatMap_nil, List.append_nil]
  | cons command history ih =>
      obtain ⟨hcommand, hhistory⟩ := List.forall_mem_cons.mp hordinary
      obtain ⟨cursor, next, rfl, hnext, hedits⟩ := edits_after method hcommand hcode
      obtain ⟨reached, hreached, hperm⟩ := ih hhistory hnext
      refine ⟨reached, hreached, fun hleft => ?_⟩
      have hnextLeft : next ≠ [] := by
        rintro rfl
        have hnil := code?_afterAll_of_nil method hhistory hnext
        exact hleft (Option.some.inj (hreached.symm.trans hnil))
      rw [inserted, List.flatMap_append, ← List.append_assoc]
      exact (hperm hleft).trans ((hedits.perm hattached hnextLeft).append_right _)

theorem closed_afterAll (hordinary : ∀ command ∈ history, command.isOrdinary)
    (hfitting : session.Fitting method history) (hcode : session.code? = some code)
    (hclosed : code.Closed) :
    ∃ reached, (session.afterAll method history).code? = some reached ∧ reached.Closed := by
  induction history generalizing session code with
  | nil => exact ⟨code, hcode, hclosed⟩
  | cons command history ih =>
      obtain ⟨hcommand, hhistory⟩ := List.forall_mem_cons.mp hordinary
      obtain ⟨hfits, hfitting⟩ := hfitting
      obtain ⟨cursor, next, rfl, hnext, hedits⟩ := edits_after method hcommand hcode
      exact ih hhistory hfitting hnext (hedits.closed (hfits _ hcode) hclosed)

/-- Labels and markers are neither lost nor doubled while an instruction is left, code without
instructions stays so, and code that is closed at first is closed after every operation if each
fragment fits. -/
theorem attached_afterAll (method : Method) (code : Code) (history : List Command)
    (hordinary : ∀ command ∈ history, command.isOrdinary) :
    (∃ reached, ((start code).afterAll method history).code? = some reached ∧
      (reached ≠ [] →
        reached.labels.Perm (code.labels ++ ((start code).inserted method history).labels) ∧
        reached.markers.Perm (code.markers ++ ((start code).inserted method history).markers))) ∧
    (∀ earlier later, history = earlier ++ later →
      ((start code).afterAll method earlier).code? = some [] →
      ((start code).afterAll method history).code? = some []) ∧
    (code.Closed → (start code).Fitting method history →
      ∀ earlier later, history = earlier ++ later →
        ∃ reached, ((start code).afterAll method earlier).code? = some reached ∧
          reached.Closed) := by
  have hstart : (start code).code? = some code := rfl
  refine ⟨?_, ?_, ?_⟩
  · obtain ⟨reached, hreached, hlabels⟩ :=
      perm_afterAll method Instruction.handsOn_labels hordinary hstart
    obtain ⟨other, hother, hmarkers⟩ :=
      perm_afterAll method Instruction.handsOn_markers hordinary hstart
    cases hreached.symm.trans hother
    exact ⟨reached, hreached, fun hleft => ⟨hlabels hleft, hmarkers hleft⟩⟩
  · rintro earlier later rfl hnil
    rw [afterAll, List.foldl_append]
    exact code?_afterAll_of_nil method (List.forall_mem_append.mp hordinary).2 hnil
  · rintro hclosed hfitting earlier later rfl
    exact closed_afterAll method (List.forall_mem_append.mp hordinary).1 hfitting.of_append hstart hclosed

/-- A loop is put in front of another one, of which only the jump back is left in the end. -/
theorem attached_afterAll_loop :
    let method : Method := ⟨.object, "Next", ⟨.plain, [], .void⟩, []⟩
    let code : Code := [⟨.nop, .none, [⟨0⟩], [⟨.beginTry, none⟩]⟩, ⟨.br, .target ⟨0⟩, [], []⟩,
      ⟨.ret, .none, [], [⟨.endRegion, none⟩]⟩]
    let loop : Code := [⟨.nop, .none, [⟨1⟩], []⟩, ⟨.br, .target ⟨1⟩, [], []⟩]
    let history : List Command := [.insertBefore loop, .remove 1, .seekRelative 1, .remove 1]
    (∀ command ∈ history, command.isOrdinary) ∧ code.Closed ∧
      (start code).Fitting method history ∧
      ∃ reached, ((start code).afterAll method history).code? = some reached ∧
        reached.Closed ∧ reached.labels.Perm [⟨0⟩, ⟨1⟩] ∧
        reached.markers.Perm [⟨.beginTry, none⟩, ⟨.endRegion, none⟩] := by
  intro method code loop history
  have hordinary : ∀ command ∈ history, command.isOrdinary := by decide
  have hclosed : code.Closed := by decide
  have hloop : loop.Fits code := ⟨by decide, by decide, by decide⟩
  have hnil : ∀ code : Code, Code.Fits [] code := fun _ => ⟨.nil, nofun, nofun⟩
  have hfitting : (start code).Fitting method history := by
    refine ⟨?_, fun _ _ => hnil _, fun _ _ => hnil _, fun _ _ => hnil _, trivial⟩
    intro _ hcode
    cases hcode
    exact hloop
  have hlabelsIn : ((start code).inserted method history).labels = [⟨1⟩] := by decide
  have hmarkersIn : ((start code).inserted method history).markers = [] := by decide
  have hlength : ((start code).afterAll method history).code?.map List.length = some 3 := by decide
  obtain ⟨⟨reached, hreached, hperm⟩, -, hafter⟩ :=
    attached_afterAll method code history hordinary
  obtain ⟨other, hother, hotherClosed⟩ := hafter hclosed hfitting history [] rfl
  cases hreached.symm.trans hother
  have hleft : reached ≠ [] := by
    rintro rfl
    rw [hreached] at hlength
    cases hlength
  rw [hlabelsIn, hmarkersIn] at hperm
  obtain ⟨hlabels, hmarkers⟩ := hperm hleft
  exact ⟨hordinary, hclosed, hfitting, reached, hreached, hotherClosed, hlabels, hmarkers⟩

end Session

end CilEdit
