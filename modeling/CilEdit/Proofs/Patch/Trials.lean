import CilEdit.Patch.Set
import CilEdit.Proofs.Session.Step

/-! What comes of the patches of a set that are tried one after the other. A patch is tried on the code
that the last applied one left, in a session of its own; its verdict tells whether that session counts.
So all that a set does to a method is told by the list of its trials: the code is the one that the last
applied trial left, and the report sorts the trials by their verdicts. Where no patch is dropped, trying
patches in two portions is the same as trying them all at once. -/

namespace CilEdit

/-- What comes of a patch on some code. -/
inductive Verdict where
  /-- its edits are kept, and this is the code with them -/
  | applied (code : Code)
  | missed
  | failed (error : EditError)

namespace Verdict

def isApplied : Verdict → Bool
  | .applied _ => true
  | _ => false

/-- The code for the next patch: that of an applied one, and else the code as it was. -/
def codeAfter (code : Code) : Verdict → Code
  | .applied edited => edited
  | _ => code

end Verdict

/-- What comes of the patch on the code of a method. Its edits count only if it says so, and if the
session still has the code. -/
def Patch.verdict (patch : Patch) (method : Method) (code : Code) : Verdict :=
  match (patch.transform method).run (.start code) with
  | (.error error, _) => .failed error
  | (.ok _, ⟨none, _⟩) => .failed .released
  | (.ok .applied, ⟨some cursor, _⟩) => .applied cursor.code
  | (.ok .anchorNotFound, ⟨some _, _⟩) => .missed

/-- A patch that was tried. -/
structure Trial where
  patch : Patch
  verdict : Verdict

namespace Trial

def isApplied (trial : Trial) : Bool := trial.verdict.isApplied

def applied? (trial : Trial) : Option String :=
  match trial.verdict with
  | .applied _ => some trial.patch.name
  | _ => none

def missed? (trial : Trial) : Option String :=
  match trial.verdict with
  | .missed => some trial.patch.name
  | _ => none

def failed? (trial : Trial) : Option (String × EditError) :=
  match trial.verdict with
  | .failed error => some (trial.patch.name, error)
  | _ => none

/-- The code that is left after trials that began with `code`. -/
def codeAfterAll (code : Code) (trials : List Trial) : Code :=
  trials.foldl (fun code trial => trial.verdict.codeAfter code) code

theorem codeAfterAll_filter (code : Code) (trials : List Trial) :
    codeAfterAll code (trials.filter isApplied) = codeAfterAll code trials := by
  induction trials generalizing code with
  | nil => rfl
  | cons trial trials ih =>
      obtain ⟨patch, verdict⟩ := trial
      cases verdict with
      | applied edited => exact ih edited
      | missed => exact ih code
      | failed error => exact ih code

end Trial

/-- Tries patches in order, each on the code that the last applied one left. -/
def Patch.tryAll (method : Method) : Code → List Patch → List Trial
  | _, [] => []
  | code, patch :: patches =>
    let verdict := patch.verdict method code
    ⟨patch, verdict⟩ :: tryAll method (verdict.codeAfter code) patches

namespace PatchSet

/-- The set with other patches. -/
def holding (patches : List Patch) (set : PatchSet) : PatchSet := { set with patches := patches }

/-- The trials of the patches whose filter lets the method pass. -/
def trials (set : PatchSet) (body : MethodBody) : List Trial :=
  Patch.tryAll body.method body.code
    (set.patches.filter fun patch => patch.appliesTo body.method)

/-- The patches that are applied. -/
def applied (set : PatchSet) (body : MethodBody) : List Patch :=
  ((set.trials body).filter Trial.isApplied).map Trial.patch

end PatchSet

namespace MethodReport

/-- The report that sorts trials by their verdicts. -/
def ofTrials (method : String) (trials : List Trial) : MethodReport :=
  ⟨method, trials.filterMap Trial.applied?, trials.filterMap Trial.missed?,
    trials.filterMap Trial.failed?, false⟩

/-- The report with the entries of a later one behind its own. -/
def append (first second : MethodReport) : MethodReport :=
  ⟨first.method, first.applied ++ second.applied, first.missed ++ second.missed,
    first.failed ++ second.failed, first.reverted || second.reverted⟩

theorem append_assoc (first second third : MethodReport) :
    (first.append second).append third = first.append (second.append third) := by
  simp [append, Bool.or_assoc]

theorem append_nil (report : MethodReport) (method : String) :
    report.append (ofTrials method []) = report := by
  simp [append, ofTrials]

theorem isClean_append (first second : MethodReport) :
    (first.append second).isClean = (first.isClean && second.isClean) := by
  obtain ⟨_, _, missed, failed, _⟩ := first
  cases missed <;> cases failed <;> simp [append, isClean]

theorem ofTrials_cons (method : String) (trial : Trial) (trials : List Trial) :
    ofTrials method (trial :: trials) =
      (ofTrials method [trial]).append (ofTrials method trials) := by
  simp only [ofTrials, append, ← List.filterMap_append, List.singleton_append, Bool.or_false]

theorem isClean_ofTrials (method : String) (trials : List Trial) :
    (ofTrials method trials).isClean = trials.all Trial.isApplied := by
  induction trials with
  | nil => rfl
  | cons trial trials ih =>
      rw [ofTrials_cons, isClean_append, ih, List.all_cons]
      congr 1
      obtain ⟨patch, verdict⟩ := trial
      cases verdict <;> rfl

/-- Every trial has one entry. -/
theorem length_ofTrials (method : String) (trials : List Trial) :
    (ofTrials method trials).applied.length + (ofTrials method trials).missed.length +
      (ofTrials method trials).failed.length = trials.length := by
  induction trials with
  | nil => rfl
  | cons trial trials ih =>
      rw [ofTrials_cons]
      simp only [append, List.length_append, List.length_cons]
      have hone : (ofTrials method [trial]).applied.length +
          (ofTrials method [trial]).missed.length +
          (ofTrials method [trial]).failed.length = 1 := by
        obtain ⟨patch, verdict⟩ := trial
        cases verdict <;> rfl
      omega

end MethodReport

namespace Patch

variable {method : Method} {code : Code}

theorem map_patch_tryAll (method : Method) (code : Code) (patches : List Patch) :
    (tryAll method code patches).map Trial.patch = patches := by
  induction patches generalizing code with
  | nil => rfl
  | cons patch patches ih => exact congrArg (patch :: ·) (ih _)

theorem tryAll_append (method : Method) (code : Code) (patches more : List Patch) :
    tryAll method code (patches ++ more) = tryAll method code patches ++
      tryAll method (Trial.codeAfterAll code (tryAll method code patches)) more := by
  induction patches generalizing code with
  | nil => rfl
  | cons patch patches ih => exact congrArg (_ :: ·) (ih _)

/-- The first few patches are tried as if there were no others. -/
theorem tryAll_map_patch {patches : List Patch} {before after : List Trial}
    (h : tryAll method code patches = before ++ after) :
    tryAll method code (before.map Trial.patch) = before := by
  have hpatches : patches = before.map Trial.patch ++ after.map Trial.patch := by
    rw [← List.map_append, ← h, map_patch_tryAll]
  have hlength : (tryAll method code (before.map Trial.patch)).length = before.length := by
    have hmap := congrArg List.length (map_patch_tryAll method code (before.map Trial.patch))
    rwa [List.length_map, List.length_map] at hmap
  rw [hpatches, tryAll_append] at h
  exact (List.append_inj h hlength).1

/-- The applied patches alone leave what all of them leave. -/
theorem tryAll_applied (method : Method) (code : Code) (patches : List Patch) :
    tryAll method code
        (((tryAll method code patches).filter Trial.isApplied).map Trial.patch) =
      (tryAll method code patches).filter Trial.isApplied := by
  induction patches generalizing code with
  | nil => rfl
  | cons patch patches ih =>
      rw [tryAll]
      cases hverdict : patch.verdict method code with
      | applied edited =>
          rw [List.filter_cons_of_pos rfl, List.map_cons, tryAll, hverdict]
          exact congrArg (_ :: ·) (ih edited)
      | missed =>
          rw [List.filter_cons_of_neg Bool.false_ne_true]
          exact ih code
      | failed error =>
          rw [List.filter_cons_of_neg Bool.false_ne_true]
          exact ih code

end Patch

/-! ### One patch -/

/-- The verdict on a patch is what its run comes to. -/
theorem Patch.verdict_eq (patch : Patch) (body : MethodBody) :
    patch.verdict body.method body.code =
      match (patch.run body).1 with
      | .ok (.applied, code) => .applied code
      | .ok (.anchorNotFound, _) => .missed
      | .error error => .failed error := by
  rw [verdict, run, edit, Edit.run_bind]
  rcases (patch.transform body.method).run (.start body.code) with
    ⟨error | outcome, cursor | cursor, log⟩
  · rfl
  · rfl
  · rfl
  · cases outcome <;> rfl

namespace Patched

theorem body_attempt (config : PatchConfig) (patched : Patched) (patch : Patch) :
    (patched.attempt config patch).body = { patched.body with
      code := (patch.verdict patched.body.method patched.body.code).codeAfter
        patched.body.code } := by
  rw [attempt, patch.verdict_eq]
  rcases patch.run patched.body with ⟨error | ⟨outcome, code⟩, session⟩
  · rfl
  · cases outcome <;> rfl

theorem report_attempt (config : PatchConfig) (patched : Patched) (patch : Patch) :
    (patched.attempt config patch).report = patched.report.append (.ofTrials patched.report.method
      [⟨patch, patch.verdict patched.body.method patched.body.code⟩]) := by
  rw [attempt, patch.verdict_eq]
  rcases patch.run patched.body with ⟨error | ⟨outcome, code⟩, session⟩
  · simp [MethodReport.append, MethodReport.ofTrials, MethodReport.addFailed, Trial.applied?,
      Trial.missed?, Trial.failed?]
  · cases outcome <;>
      simp [MethodReport.append, MethodReport.ofTrials, MethodReport.addApplied,
        MethodReport.addMissed, Trial.applied?, Trial.missed?, Trial.failed?]

/-- The patched method with what was reported and logged of it before, in front. -/
def append (first second : Patched) : Patched :=
  ⟨second.body, first.report.append second.report, first.log ++ second.log⟩

theorem append_start (patched : Patched) : patched.append (.start patched.body) = patched := by
  simp [append, start, MethodReport.append, MethodReport.start]

/-- A patch adds to the report and to the log, whatever they are, and looks at neither. -/
theorem attempt_append (config : PatchConfig) (first patched : Patched) (patch : Patch) :
    (first.append patched).attempt config patch = first.append (patched.attempt config patch) := by
  rw [attempt, attempt, show (first.append patched).body = patched.body from rfl]
  rcases patch.run patched.body with ⟨error | ⟨outcome, code⟩, session⟩
  · simp [append, MethodReport.append, MethodReport.addFailed]
  · cases outcome <;>
      simp [append, MethodReport.append, MethodReport.addApplied, MethodReport.addMissed]

/-! ### Any number of patches -/

theorem body_foldl_attempt (config : PatchConfig) (patches : List Patch) (patched : Patched) :
    (patches.foldl (attempt config) patched).body = { patched.body with
      code := Trial.codeAfterAll patched.body.code
        (Patch.tryAll patched.body.method patched.body.code patches) } := by
  induction patches generalizing patched with
  | nil => rfl
  | cons patch patches ih =>
      rw [List.foldl_cons, ih, body_attempt]
      rfl

theorem report_foldl_attempt (config : PatchConfig) (patches : List Patch) (patched : Patched) :
    (patches.foldl (attempt config) patched).report =
      patched.report.append (.ofTrials patched.report.method
        (Patch.tryAll patched.body.method patched.body.code patches)) := by
  induction patches generalizing patched with
  | nil => exact (patched.report.append_nil _).symm
  | cons patch patches ih =>
      rw [List.foldl_cons, ih, report_attempt, body_attempt, MethodReport.append_assoc]
      exact congrArg patched.report.append (MethodReport.ofTrials_cons _ _ _).symm

theorem foldl_attempt_append (config : PatchConfig) (patches : List Patch)
    (first patched : Patched) :
    patches.foldl (attempt config) (first.append patched) =
      first.append (patches.foldl (attempt config) patched) :=
  List.foldl_hom first.append fun patched patch => attempt_append config first patched patch

/-- No patch is dropped where the policy is to skip patches. -/
theorem attemptAll_skipPatch {config : PatchConfig} (h : config.failurePolicy = .skipPatch)
    (untouched : MethodBody) (patches : List Patch) (patched : Patched) :
    attemptAll config untouched patches patched = patches.foldl (attempt config) patched := by
  induction patches generalizing patched with
  | nil => rfl
  | cons patch patches ih =>
      have hkept : (patched.attempt config patch).isRejected config = false := by
        simp [isRejected, h]
      rw [attemptAll, List.foldl_cons, ← ih]
      simp only [hkept, Bool.false_eq_true, if_false]

end Patched

namespace PatchSet

theorem apply_eq_foldl (set : PatchSet) (h : set.config.failurePolicy = .skipPatch)
    (body : MethodBody) :
    set.apply body = (set.patches.filter fun patch => patch.appliesTo body.method).foldl
      (Patched.attempt set.config) (.start body) :=
  Patched.attemptAll_skipPatch h body _ _

theorem map_patch_trials (set : PatchSet) (body : MethodBody) :
    (set.trials body).map Trial.patch =
      set.patches.filter fun patch => patch.appliesTo body.method :=
  Patch.map_patch_tryAll _ _ _

theorem appliesTo_of_mem_trials (set : PatchSet) {body : MethodBody} {trial : Trial}
    (h : trial ∈ set.trials body) : trial.patch.appliesTo body.method := by
  have hmem := List.mem_map_of_mem (f := Trial.patch) h
  rw [set.map_patch_trials] at hmem
  exact (List.mem_filter.mp hmem).2

/-- The trials of the applied patches alone are those that they had among the others. -/
theorem trials_applied (set : PatchSet) (body : MethodBody) :
    (set.holding (set.applied body)).trials body = (set.trials body).filter Trial.isApplied := by
  have haccepted : ∀ patch ∈ set.applied body, patch.appliesTo body.method = true := by
    intro patch hpatch
    obtain ⟨trial, htrial, rfl⟩ := List.mem_map.mp hpatch
    exact set.appliesTo_of_mem_trials (List.mem_filter.mp htrial).1
  rw [trials, holding, List.filter_eq_self.mpr haccepted]
  exact Patch.tryAll_applied body.method body.code _

theorem body_apply (set : PatchSet) (h : set.config.failurePolicy = .skipPatch)
    (body : MethodBody) :
    (set.apply body).body = ⟨body.method, Trial.codeAfterAll body.code (set.trials body)⟩ := by
  rw [set.apply_eq_foldl h, Patched.body_foldl_attempt]
  rfl

theorem report_apply (set : PatchSet) (h : set.config.failurePolicy = .skipPatch)
    (body : MethodBody) :
    (set.apply body).report = .ofTrials body.method.fullName (set.trials body) := by
  rw [set.apply_eq_foldl h, Patched.report_foldl_attempt]
  rfl

/-- The applied patches alone leave the same code. -/
theorem body_apply_applied (set : PatchSet) (h : set.config.failurePolicy = .skipPatch)
    (body : MethodBody) :
    ((set.holding (set.applied body)).apply body).body = (set.apply body).body := by
  let applied := set.holding (set.applied body)
  calc (applied.apply body).body
    _ = ⟨body.method, Trial.codeAfterAll body.code (applied.trials body)⟩ :=
      applied.body_apply h body
    _ = ⟨body.method, Trial.codeAfterAll body.code (set.trials body)⟩ := by
      rw [set.trials_applied, Trial.codeAfterAll_filter]
    _ = (set.apply body).body := (set.body_apply h body).symm

/-- A set in two portions does what one portion after the other does. -/
theorem apply_append (set : PatchSet) (h : set.config.failurePolicy = .skipPatch)
    (body : MethodBody) (more : List Patch) :
    (set.holding (set.patches ++ more)).apply body =
      (set.apply body).append ((set.holding more).apply (set.apply body).body) := by
  let accepts : Patch → Bool := fun patch => patch.appliesTo body.method
  have hmethod : (set.apply body).body.method = body.method := by rw [set.body_apply h]
  calc (set.holding (set.patches ++ more)).apply body
    _ = ((set.patches ++ more).filter accepts).foldl (Patched.attempt set.config) (.start body) :=
      (set.holding (set.patches ++ more)).apply_eq_foldl h body
    _ = (more.filter accepts).foldl (Patched.attempt set.config) (set.apply body) := by
      rw [List.filter_append, List.foldl_append, set.apply_eq_foldl h]
    _ = (more.filter accepts).foldl (Patched.attempt set.config)
        ((set.apply body).append (.start (set.apply body).body)) := by
      rw [Patched.append_start]
    _ = (set.apply body).append ((more.filter accepts).foldl (Patched.attempt set.config)
        (.start (set.apply body).body)) :=
      Patched.foldl_attempt_append set.config _ _ _
    _ = (set.apply body).append ((set.holding more).apply (set.apply body).body) := by
      rw [(set.holding more).apply_eq_foldl h, hmethod]
      rfl

/-- Where patches are skipped, a set leaves the code of the last applied trial and the report that
sorts the trials by their verdicts. Every patch whose filter lets the method pass is tried once and has
one entry. The patches that are not applied leave no trace in the code, and a set in two portions does
what one portion after the other does. -/
theorem apply_skipPatch (set : PatchSet) (body : MethodBody)
    (hpolicy : set.config.failurePolicy = .skipPatch) :
    let patched := set.apply body
    let trials := set.trials body
    patched.body = ⟨body.method, Trial.codeAfterAll body.code trials⟩ ∧
    patched.report = .ofTrials body.method.fullName trials ∧
    trials.map Trial.patch = (set.patches.filter fun patch => patch.appliesTo body.method) ∧
    patched.report.applied.length + patched.report.missed.length + patched.report.failed.length =
      trials.length ∧
    ((set.holding (set.applied body)).apply body).body = patched.body ∧
    ∀ more, (set.holding (set.patches ++ more)).apply body =
      patched.append ((set.holding more).apply patched.body) := by
  intro patched trials
  refine ⟨set.body_apply hpolicy body, set.report_apply hpolicy body,
    set.map_patch_trials body, ?_, set.body_apply_applied hpolicy body,
    set.apply_append hpolicy body⟩
  rw [set.report_apply hpolicy body]
  exact MethodReport.length_ofTrials _ trials

/-- One patch empties the code before it misses its anchor, one hands the code back, and one has no
business with the method. The two applied patches see nothing of them. -/
theorem apply_skipPatch_nops :
    let method : Method := ⟨.classType "A", "B", ⟨.plain, [], .void⟩, []⟩
    let body : MethodBody := ⟨method, [.make .ret]⟩
    let nop (name : String) : Patch :=
      ⟨name, none, none, fun _ => do Edit.insertBefore [.make .nop]; return .applied⟩
    let lost : Patch := ⟨"lost", none, none, fun _ => do Edit.remove 1; return .anchorNotFound⟩
    let freed : Patch := ⟨"freed", none, none, fun _ => do let _ ← Edit.release; return .applied⟩
    let foreign : Patch := { nop "foreign" with owner := some "C" }
    let set : PatchSet := ⟨[nop "first", lost, foreign, freed, nop "second"], .standard⟩
    let patched := set.apply body
    set.config.failurePolicy = .skipPatch ∧
      (patched.report.applied, patched.report.missed, patched.report.failed.map Prod.fst) =
        (["first", "second"], ["lost"], ["freed"]) ∧
      patched.body.code.map Instruction.opcode = [.nop, .nop, .ret] ∧
      (set.holding (set.patches ++ [lost])).apply body =
        patched.append ((set.holding [lost]).apply patched.body) := by
  intro method body nop lost freed foreign set patched
  obtain ⟨-, -, -, -, -, happend⟩ := apply_skipPatch set body rfl
  exact ⟨rfl, rfl, rfl, happend [lost]⟩

end PatchSet

end CilEdit
