import CilEdit.Proofs.Patch.Trials
import CilEdit.Proofs.Session.Beyond

/-! Patches that are scripts and read their outcome off the cursor in the end. Such a patch is applied
exactly if an instruction is current then. Two things take the cursor beyond an end of the code: a
search that finds nothing, and a step that leaves nothing behind the cursor although it did find its
place, namely a move just behind a window at the end of the code and the removal of all that follows.
The outcome does not tell the two apart: a patch that does the latter has its edits dropped like one
without an anchor. -/

namespace CilEdit

namespace Command

/-- Whether the operation is a search for a window or an edit with a fixed fragment. -/
def isAnchored : Command → Bool
  | .seekForward _ | .seekForwardToEnd _ | .seekBackward _ => true
  | .insertBefore _ | .insertInPlace _ | .replace _ | .remove _ => true
  | _ => false

/-- Whether the operation leaves the cursor just behind the last instruction although it found its
place: behind a window at the end of the code, or where all from the current instruction on is removed.
-/
def Overshoots (cursor : Cursor) : Command → Prop
  | .seekForwardToEnd pattern =>
    ∃ index window, cursor.index? = some index ∧
      cursor.code.findWindow? pattern index = some window ∧ window.stop = cursor.length
  | .remove count => ∃ index, cursor.index? = some index ∧ cursor.length ≤ index + count
  | .replace [] => ∃ index, cursor.index? = some index ∧ cursor.length ≤ index + 1
  | _ => False

/-- Whether the operation goes beyond an end. -/
def Leaves (cursor : Cursor) (command : Command) : Prop :=
  command.FindsNothing cursor ∨ command.Overshoots cursor

theorem isRelative_of_isAnchored {command : Command} (h : command.isAnchored) :
    command.isRelative := by
  cases command <;> first | rfl | cases h

theorem answer_of_isAnchored {command : Command} (h : command.isAnchored) (method : Method)
    (cursor : Cursor) : command.answer method cursor = .ok .done := by
  cases command <;> first | rfl | cases h

end Command

namespace Cursor

variable {cursor : Cursor} {index : Nat}

theorem isValid_iff : cursor.isValid ↔ 0 ≤ cursor.position ∧ cursor.position < cursor.length := by
  rw [isValid, index?]
  split <;> simp_all

theorem isValid_seekWindow_iff (h : cursor.index? = some index) (pattern : Pattern)
    (target : Window → Nat) :
    (cursor.seekWindow pattern target).isValid ↔
      ∃ window, cursor.code.findWindow? pattern index = some window ∧
        target window < cursor.length := by
  rw [isValid_iff]
  cases hwindow : cursor.code.findWindow? pattern index with
  | none => simp [seekWindow, h, hwindow, length]
  | some window => simp [seekWindow, h, hwindow, length]

theorem isValid_seekBackward_iff (h : cursor.index? = some index) (pattern : Pattern) :
    (cursor.seekBackward pattern).isValid ↔
      cursor.code.findLastWindow? pattern index ≠ none := by
  rw [isValid_iff]
  cases hwindow : cursor.code.findLastWindow? pattern index with
  | none => simp [seekBackward, h, hwindow]
  | some window =>
      have hlt := (Code.inside_of_findLastWindow? hwindow).start_lt
      simp [seekBackward, h, hwindow, length, hlt]

theorem isValid_remove_iff (h : cursor.index? = some index) (count : Nat) :
    (cursor.remove count).isValid ↔ index + count < cursor.length := by
  obtain ⟨hposition, hlt⟩ := index?_eq_some_iff.mp h
  have hlength := Code.length_removeAt (Nat.le_of_lt hlt) count
  rw [isValid_iff]
  simp only [remove, h, length, hlength, hposition]
  omega

end Cursor

/-- Where a fragment was put in, or took the place of an instruction, an instruction is current. -/
theorem Splice.isValid_perform {cursor : Cursor} {index : Nat} (h : cursor.index? = some index)
    {edit : Splice} {fragment : Code} (hheir : edit.taken = 0 ∨ fragment ≠ []) :
    (edit.perform cursor fragment).isValid := by
  have hlt := (Cursor.index?_eq_some_iff.mp h).2
  have hlength := length_perform h hheir
  rw [Cursor.isValid_iff, edit.position_perform h]
  cases edit with
  | insertBefore => simp only [taken, position] at hlength ⊢; omega
  | insertInPlace => simp only [taken, position] at hlength ⊢; omega
  | replace =>
      have hpos := List.length_pos_iff.mpr (hheir.resolve_left (by decide))
      simp only [taken, position] at hlength ⊢
      omega

namespace Command

/-- After a step from an instruction the cursor is valid unless the step went beyond an end. -/
theorem isValid_onCursor_iff {method : Method} {cursor next : Cursor} {index : Nat}
    {command : Command} (h : command.isAnchored) (hindex : cursor.index? = some index)
    (hnext : command.onCursor method cursor = some next) :
    next.isValid ↔ ¬command.Leaves cursor := by
  have hall : ∀ {P : Nat → Prop}, (∀ place, cursor.index? = some place → P place) ↔ P index := by
    simp [hindex]
  have hex : ∀ {P : Nat → Prop}, (∃ place, cursor.index? = some place ∧ P place) ↔ P index := by
    simp [hindex]
  have hput : ∀ (edit : Splice) (fragment : Code), edit.taken = 0 ∨ fragment ≠ [] →
      ¬command.Leaves cursor →
      ((edit.perform cursor fragment).isValid ↔ ¬command.Leaves cursor) :=
    fun edit fragment hheir hstays => iff_of_true (Splice.isValid_perform hindex hheir) hstays
  cases command with
  | seekForward pattern =>
      cases hnext
      have hleaves : (seekForward pattern).Leaves cursor ↔
          cursor.code.findWindow? pattern index = none := (or_iff_left id).trans hall
      rw [Cursor.seekForward, Cursor.isValid_seekWindow_iff hindex, hleaves, ← ne_eq,
        Option.ne_none_iff_exists']
      exact exists_congr fun window => and_iff_left_of_imp fun hwindow =>
        (Code.inside_of_findWindow? hwindow).start_lt
  | seekForwardToEnd pattern =>
      cases hnext
      have hleaves : (seekForwardToEnd pattern).Leaves cursor ↔
          cursor.code.findWindow? pattern index = none ∨ ∃ window,
            cursor.code.findWindow? pattern index = some window ∧ window.stop = cursor.length :=
        or_congr hall (by simp [Overshoots, hindex])
      rw [Cursor.seekForwardToEnd, Cursor.isValid_seekWindow_iff hindex, hleaves]
      cases hwindow : cursor.code.findWindow? pattern index with
      | none => simp
      | some window =>
          have hle := (Code.inside_of_findWindow? hwindow).stop_le
          simp only [Option.some.injEq, exists_eq_left', reduceCtorEq, false_or]
          exact ⟨Nat.ne_of_lt, Nat.lt_of_le_of_ne hle⟩
  | seekBackward pattern =>
      cases hnext
      have hleaves : (seekBackward pattern).Leaves cursor ↔
          cursor.code.findLastWindow? pattern index = none := (or_iff_left id).trans hall
      rw [Cursor.isValid_seekBackward_iff hindex, hleaves]
  | insertBefore fragment =>
      cases hnext
      exact hput .insertBefore fragment (Or.inl rfl) (not_or.mpr ⟨id, id⟩)
  | insertInPlace fragment =>
      cases hnext
      exact hput .insertInPlace fragment (Or.inl rfl) (not_or.mpr ⟨id, id⟩)
  | replace fragment =>
      cases hnext
      cases fragment with
      | nil =>
          have hremove : cursor.replace [] = cursor.remove 1 := by
            simp only [Cursor.replace, hindex]
          have hleaves : (replace []).Leaves cursor ↔ cursor.length ≤ index + 1 :=
            (or_iff_right id).trans hex
          rw [hremove, Cursor.isValid_remove_iff hindex, hleaves, Nat.not_le]
      | cons heir rest =>
          exact hput .replace (heir :: rest) (Or.inr (List.cons_ne_nil _ _)) (not_or.mpr ⟨id, id⟩)
  | remove count =>
      cases hnext
      have hleaves : (remove count).Leaves cursor ↔ cursor.length ≤ index + count :=
        (or_iff_right id).trans hex
      rw [Cursor.isValid_remove_iff hindex, hleaves, Nat.not_le]
  | _ => cases h

end Command

/-! ### Scripts -/

namespace Script

/-- The edit that performs a script and reads its outcome off the cursor. -/
def transform (script : Script) (method : Method) : Edit Outcome := do
  perform method script
  return (← get).outcome

section Anchored

variable (method : Method) {cursor : Cursor} {script : Script}
  (hscript : ∀ command ∈ script, command.isAnchored)

include hscript in
/-- Searches for windows and edits do not fail, so a script of them is performed to its end. -/
theorem run_perform (session : Session) (hcursor : session.cursor = some cursor) :
    (perform method script).run session = (.ok (), session.afterAll method script) := by
  induction script generalizing session cursor with
  | nil => rfl
  | cons command script ih =>
      obtain ⟨hcommand, hrest⟩ := List.forall_mem_cons.mp hscript
      obtain ⟨next, hnext⟩ :=
        Command.exists_onCursor (Command.isRelative_of_isAnchored hcommand) method cursor
      have hanswer : ((command.perform method).run session).1 = .ok .done := by
        rw [Session.eq_of_cursor hcursor, Command.run_perform]
        exact Command.answer_of_isAnchored hcommand method cursor
      have hrun : (command.perform method).run session = (.ok .done, session.after method command) :=
        Prod.ext hanswer rfl
      have hstep : (do let _ ← command.perform method : Edit Unit).run session =
          (.ok (), session.after method command) := by
        rw [Edit.run_bind, hrun]
        rfl
      have hafter := Session.cursor_after_of_onCursor hcursor hnext
      have hperform : perform method (command :: script) =
          (do let _ ← command.perform method : Edit Unit) >>= fun _ => perform method script := rfl
      rw [hperform, Edit.run_bind, hstep]
      exact ih hrest _ hafter

include hscript in
/-- A cursor that is valid at first stays valid if no step goes beyond an end. -/
theorem isValid_afterAll (session : Session) (hcursor : session.cursor = some cursor)
    (hvalid : cursor.isValid)
    (hstays : ∀ earlier command later, script = earlier ++ command :: later →
      ∀ reached, (session.afterAll method earlier).cursor = some reached → reached.isValid →
        ¬command.Leaves reached) :
    ∃ edited, (session.afterAll method script).cursor = some edited ∧ edited.isValid := by
  induction script generalizing session cursor with
  | nil => exact ⟨cursor, hcursor, hvalid⟩
  | cons command script ih =>
      obtain ⟨hcommand, hrest⟩ := List.forall_mem_cons.mp hscript
      obtain ⟨index, hindex⟩ := Option.isSome_iff_exists.mp hvalid
      obtain ⟨next, hnext⟩ :=
        Command.exists_onCursor (Command.isRelative_of_isAnchored hcommand) method cursor
      have hafter := Session.cursor_after_of_onCursor hcursor hnext
      have hfirst := hstays [] command script rfl cursor hcursor hvalid
      refine ih hrest _ hafter ((Command.isValid_onCursor_iff hcommand hindex hnext).mpr hfirst) ?_
      rintro earlier later rest rfl
      exact hstays (command :: earlier) later rest rfl

include hscript in
/-- A step that goes beyond an end leaves no valid cursor in the end, whatever follows it. -/
theorem not_isValid_afterAll (session : Session) {earlier later : List Command} {command : Command}
    (hsplit : script = earlier ++ command :: later)
    (hcursor : (session.afterAll method earlier).cursor = some cursor) (hvalid : cursor.isValid)
    (hleaves : command.Leaves cursor) :
    ∃ edited, (session.afterAll method script).cursor = some edited ∧ edited.isValid = false := by
  subst hsplit
  obtain ⟨-, htail⟩ := List.forall_mem_append.mp hscript
  obtain ⟨hcommand, hlater⟩ := List.forall_mem_cons.mp htail
  obtain ⟨index, hindex⟩ := Option.isSome_iff_exists.mp hvalid
  obtain ⟨next, hnext⟩ :=
    Command.exists_onCursor (Command.isRelative_of_isAnchored hcommand) method cursor
  have hnot : ¬next.isValid := fun hnextValid =>
    (Command.isValid_onCursor_iff hcommand hindex hnext).mp hnextValid hleaves
  have hbeyond : next.index? = none := by simpa [Cursor.isValid] using hnot
  have hafter : (session.afterAll method (earlier ++ [command])).cursor = some next := by
    rw [Session.afterAll_append]
    exact Session.cursor_after_of_onCursor hcursor hnext
  refine ⟨next, ?_, by simpa using hnot⟩
  rw [List.append_cons, Session.afterAll_append, Session.eq_of_cursor hafter,
    Session.afterAll_of_beyond hbeyond]
  exact fun other hother => Command.isRelative_of_isAnchored (hlater other hother)

end Anchored

end Script

/-! ### The patch -/

namespace Patch

variable (name : String) (owner methodName : Option String) {body : MethodBody} {script : Script}
  (hscript : ∀ command ∈ script, command.isAnchored)

include hscript in
/-- A patch that is a script comes to the outcome that its cursor speaks for in the end. -/
theorem run_transform {edited : Cursor}
    (hedited : ((Session.start body.code).afterAll body.method script).cursor = some edited) :
    ((Patch.mk name owner methodName (Script.transform script)).run body).1 =
      .ok (if edited.isValid then .applied else .anchorNotFound, edited.code) := by
  have hperform := Script.run_perform body.method hscript (.start body.code) rfl
  have hsession := Session.eq_of_cursor hedited
  have htransform : (Script.transform script body.method).run (.start body.code) =
      (.ok (if edited.isValid then .applied else .anchorNotFound),
        (Session.start body.code).afterAll body.method script) := by
    rw [Script.transform, Edit.run_bind, hperform, hsession]
    rfl
  rw [run, edit, Edit.run_bind, htransform, hsession]
  rfl

end Patch

/-! ### What a set makes of its outcome -/

namespace Patched

variable {patch : Patch} {code : Code}

theorem attempt_of_applied (patched : Patched)
    (h : (patch.run patched.body).1 = .ok (.applied, code)) (config : PatchConfig) :
    (patched.attempt config patch).body = { patched.body with code := code } ∧
      (patched.attempt config patch).report = patched.report.addApplied patch.name := by
  rw [attempt]
  rcases hrun : patch.run patched.body with ⟨result, session⟩
  rw [hrun] at h
  cases h
  exact ⟨rfl, rfl⟩

theorem attempt_of_anchorNotFound (patched : Patched)
    (h : (patch.run patched.body).1 = .ok (.anchorNotFound, code)) (config : PatchConfig) :
    (patched.attempt config patch).body = patched.body ∧
      (patched.attempt config patch).report = patched.report.addMissed patch.name := by
  rw [attempt]
  rcases hrun : patch.run patched.body with ⟨result, session⟩
  rw [hrun] at h
  cases h
  exact ⟨rfl, rfl⟩

end Patched

theorem PatchSet.apply_singleton {patch : Patch} {body : MethodBody}
    (h : patch.appliesTo body.method) (config : PatchConfig) :
    (PatchSet.mk [patch] config).apply body =
      let tried := (Patched.start body).attempt config patch
      if tried.isRejected config then tried.revert body else tried := by
  have hfilter : [patch].filter (fun patch => patch.appliesTo body.method) = [patch] :=
    List.filter_eq_self.mpr fun other hother => List.mem_singleton.mp hother ▸ h
  rw [apply, hfilter]
  rfl

namespace Patch

/-- The patch is applied: its run comes to the edited code, and a set keeps that code and reports the
patch as applied, whatever was tried before it. -/
structure Kept (patch : Patch) (body : MethodBody) (edited : Code) : Prop where
  run : (patch.run body).1 = .ok (.applied, edited)
  attempt : ∀ (config : PatchConfig) (patched : Patched), patched.body = body →
    (patched.attempt config patch).body = { body with code := edited } ∧
      (patched.attempt config patch).report = patched.report.addApplied patch.name
  alone : ∀ config : PatchConfig, patch.appliesTo body.method →
    let patched := (PatchSet.mk [patch] config).apply body
    patched.body = { body with code := edited } ∧ patched.report.applied = [patch.name] ∧
      patched.report.missed = []

/-- The patch is missed: its run comes to some edited code all the same, but a set drops that code and
reports the patch as missed, whatever was tried before it. -/
structure Dropped (patch : Patch) (body : MethodBody) (edited : Code) : Prop where
  run : (patch.run body).1 = .ok (.anchorNotFound, edited)
  attempt : ∀ (config : PatchConfig) (patched : Patched), patched.body = body →
    (patched.attempt config patch).body = body ∧
      (patched.attempt config patch).report = patched.report.addMissed patch.name
  alone : ∀ config : PatchConfig, patch.appliesTo body.method →
    let patched := (PatchSet.mk [patch] config).apply body
    patched.body = body ∧ patched.report.applied = [] ∧ patched.report.missed = [patch.name]

variable {patch : Patch} {body : MethodBody} {edited : Code}

theorem Kept.of_run (h : (patch.run body).1 = .ok (.applied, edited)) : patch.Kept body edited where
  run := h
  attempt := by
    rintro config patched rfl
    exact Patched.attempt_of_applied patched h config
  alone := by
    intro config happlies
    obtain ⟨hbody, hreport⟩ := Patched.attempt_of_applied (.start body) h config
    have hclean : ((Patched.start body).attempt config patch).isRejected config = false := by
      rw [Patched.isRejected, hreport]
      rfl
    rw [PatchSet.apply_singleton happlies]
    simp only [hclean, Bool.false_eq_true, if_false, hreport]
    exact ⟨hbody, rfl, rfl⟩

theorem Dropped.of_run (h : (patch.run body).1 = .ok (.anchorNotFound, edited)) :
    patch.Dropped body edited where
  run := h
  attempt := by
    rintro config patched rfl
    exact Patched.attempt_of_anchorNotFound patched h config
  alone := by
    intro config happlies
    obtain ⟨hbody, hreport⟩ := Patched.attempt_of_anchorNotFound (.start body) h config
    rw [PatchSet.apply_singleton happlies]
    simp only
    split
    · exact ⟨rfl, rfl, congrArg MethodReport.missed hreport⟩
    · rw [hreport]
      exact ⟨hbody, rfl, rfl⟩

/-- A script of searches and edits on code with instructions is performed to its end. If no step from a
valid cursor goes beyond an end, the patch is applied with the code that is left then. If some step from
a valid cursor does, because it is a search that finds nothing or because it leaves nothing behind the
cursor, the patch is missed. -/
theorem run_script (name : String) (owner methodName : Option String) (body : MethodBody)
    (script : Script) (hcode : body.code ≠ [])
    (hscript : ∀ command ∈ script, command.isAnchored) :
    let patch : Patch := ⟨name, owner, methodName, Script.transform script⟩
    let after (part : List Command) : Option Cursor :=
      ((Session.start body.code).afterAll body.method part).cursor
    ∃ edited, after script = some edited ∧
      ((∀ earlier command later cursor, script = earlier ++ command :: later →
          after earlier = some cursor → cursor.isValid →
            ¬command.FindsNothing cursor ∧ ¬command.Overshoots cursor) →
        patch.Kept body edited.code) ∧
      ∀ earlier command later cursor, script = earlier ++ command :: later →
        after earlier = some cursor → cursor.isValid →
        command.FindsNothing cursor ∨ command.Overshoots cursor → patch.Dropped body edited.code := by
  intro patch after
  have hvalid : (Cursor.start body.code).isValid := by
    rw [Cursor.isValid_iff]
    exact ⟨Int.le_refl 0, Int.ofNat_lt.mpr (List.length_pos_iff.mpr hcode)⟩
  obtain ⟨edited, hedited⟩ := Session.exists_cursor_afterAll body.method (.start body.code) rfl
    fun command hcommand => Command.isRelative_of_isAnchored (hscript command hcommand)
  have hrun := run_transform name owner methodName hscript hedited
  refine ⟨edited, hedited, fun hstays => Kept.of_run ?_, ?_⟩
  · obtain ⟨other, hother, hend⟩ := Script.isValid_afterAll body.method hscript
      (.start body.code) rfl hvalid
      fun earlier command later hsplit cursor hcursor hcursorValid =>
        not_or.mpr (hstays earlier command later cursor hsplit hcursor hcursorValid)
    cases hother.symm.trans hedited
    rw [hrun, if_pos hend]
  · intro earlier command later cursor hsplit hcursor hcursorValid hleaves
    obtain ⟨other, hother, hend⟩ := Script.not_isValid_afterAll body.method hscript
      (.start body.code) hsplit hcursor hcursorValid hleaves
    cases hother.symm.trans hedited
    exact Dropped.of_run (by rw [hrun, hend]; rfl)

/-- A script that finds all that it searches for and stays in the code, and one that does not find its
second window. -/
theorem run_script_nop_ret :
    let method : Method := ⟨.classType "A", "B", ⟨.plain, [], .void⟩, []⟩
    let body : MethodBody := ⟨method, [.make .nop, .make .ret]⟩
    let patch (script : Script) : Patch := ⟨"p", none, none, Script.transform script⟩
    let found : Script := [.seekForward [.oneOf [.ret]], .insertBefore [.make .dup]]
    let missing : Script := found ++ [.seekForward [.oneOf [.throw]]]
    let edited : Code := [.make .nop, .make .dup, .make .ret]
    body.code ≠ [] ∧ (∀ command ∈ missing, command.isAnchored) ∧
      (patch found).Kept body edited ∧ (patch missing).Dropped body edited := by
  intro method body patch found missing edited
  have hcode : body.code ≠ [] := List.cons_ne_nil _ _
  have hmissing : ∀ command ∈ missing, command.isAnchored := by decide
  have hfound : ∀ command ∈ found, command.isAnchored := by decide
  obtain ⟨kept, hkept, happlied, -⟩ := run_script "p" none none body found hcode hfound
  obtain ⟨dropped, hdropped, -, hmissed⟩ := run_script "p" none none body missing hcode hmissing
  cases hkept
  cases hdropped
  refine ⟨hcode, hmissing, happlied ?_, ?_⟩
  · intro earlier command later cursor hsplit hcursor hvalid
    change [Command.seekForward _, Command.insertBefore _] = _ at hsplit
    obtain _ | ⟨first, _ | ⟨second, rest⟩⟩ := earlier
    · cases hsplit
      cases hcursor
      exact ⟨fun hnothing => Option.some_ne_none _ (hnothing 0 rfl), id⟩
    · cases hsplit
      exact ⟨id, id⟩
    · cases rest <;> cases hsplit
  · refine hmissed found _ [] _ rfl rfl rfl (Or.inl ?_)
    intro index hindex
    cases hindex
    rfl

/-- Two scripts that find all that they search for and leave some code, but nothing behind the cursor:
one moves behind the last window, one removes the last instruction. Both patches are missed. -/
theorem dropped_nothing_behind :
    let method : Method := ⟨.classType "A", "B", ⟨.plain, [], .void⟩, []⟩
    let body : MethodBody := ⟨method, [.make .nop, .make .ret]⟩
    let patch (script : Script) : Patch := ⟨"p", none, none, Script.transform script⟩
    let behind : Script := [.seekForward [.oneOf [.nop]], .insertBefore [.make .dup],
      .seekForwardToEnd [.oneOf [.ret]]]
    let last : Script := [.seekForward [.oneOf [.ret]], .remove 1]
    body.code ≠ [] ∧ ∀ script ∈ [behind, last],
      (∀ command ∈ script, command.isAnchored) ∧
      (∀ earlier command later cursor, script = earlier ++ command :: later →
        ((Session.start body.code).afterAll body.method earlier).cursor = some cursor →
        cursor.isValid → ¬command.FindsNothing cursor) ∧
      ∃ edited, edited ≠ [] ∧ (patch script).Dropped body edited := by
  intro method body patch behind last
  refine ⟨List.cons_ne_nil _ _, List.forall_mem_cons.mpr ⟨⟨by decide, ?_, ?_⟩,
    List.forall_mem_singleton.mpr ⟨by decide, ?_, ?_⟩⟩⟩
  · intro earlier command later cursor hsplit hcursor hvalid hnothing
    change [Command.seekForward _, Command.insertBefore _, Command.seekForwardToEnd _] = _ at hsplit
    obtain _ | ⟨first, _ | ⟨second, _ | ⟨third, rest⟩⟩⟩ := earlier
    · cases hsplit
      cases hcursor
      exact Option.some_ne_none _ (hnothing 0 rfl)
    · cases hsplit
      exact hnothing
    · cases hsplit
      cases hcursor
      exact Option.some_ne_none _ (hnothing 1 rfl)
    · cases rest <;> cases hsplit
  · let edited : Cursor := ⟨[.make .dup, .make .nop, .make .ret], 3, some ⟨2, 3, []⟩⟩
    have hedited : ((Session.start body.code).afterAll body.method behind).cursor = some edited := rfl
    exact ⟨edited.code, List.cons_ne_nil _ _,
      Dropped.of_run (run_transform "p" none none (by decide) hedited)⟩
  · intro earlier command later cursor hsplit hcursor hvalid hnothing
    change [Command.seekForward _, Command.remove _] = _ at hsplit
    obtain _ | ⟨first, _ | ⟨second, rest⟩⟩ := earlier
    · cases hsplit
      cases hcursor
      exact Option.some_ne_none _ (hnothing 0 rfl)
    · cases hsplit
      exact hnothing
    · cases rest <;> cases hsplit
  · exact ⟨[.make .nop], List.cons_ne_nil _ _, Dropped.of_run rfl⟩

end Patch

end CilEdit
