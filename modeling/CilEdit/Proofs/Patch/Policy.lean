import CilEdit.Proofs.Patch.Trials

/-! The two policies side by side. As long as every patch is applied a set does the same under both.
At the first patch that is not applied the one policy drops that patch alone, and the other one puts the
method back as it was and tries no further patch. -/

namespace CilEdit

/-- Once the method is put back, a report without misses and failures leaves nothing of itself. -/
theorem MethodReport.revert_append {first : MethodReport} (h : first.isClean)
    (second : MethodReport) :
    (first.append second).revert = ⟨first.method, [], second.missed, second.failed, true⟩ := by
  rw [isClean, Bool.and_eq_true, List.isEmpty_iff, List.isEmpty_iff] at h
  simp [append, revert, h]

/-- A trial that is not applied has its one entry among the missed or the failed ones. -/
theorem Trial.length_of_not_applied {trial : Trial} (h : trial.isApplied = false) :
    ([trial].filterMap missed?).length + ([trial].filterMap failed?).length = 1 := by
  obtain ⟨patch, verdict⟩ := trial
  cases verdict with
  | applied edited => cases h
  | missed => rfl
  | failed error => rfl

namespace Patched

variable {config : PatchConfig} {patched : Patched}

theorem isClean_attempt (config : PatchConfig) (patched : Patched) (patch : Patch) :
    (patched.attempt config patch).report.isClean = (patched.report.isClean &&
      (patch.verdict patched.body.method patched.body.code).isApplied) := by
  rw [report_attempt, MethodReport.isClean_append, MethodReport.isClean_ofTrials, List.all_cons,
    List.all_nil, Bool.and_true, Trial.isApplied]

/-- Applied patches are passed under every policy. -/
theorem attemptAll_append (config : PatchConfig) (untouched : MethodBody) {patches : List Patch}
    (more : List Patch) (hclean : patched.report.isClean)
    (happlied : (Patch.tryAll patched.body.method patched.body.code patches).all Trial.isApplied) :
    attemptAll config untouched (patches ++ more) patched =
      attemptAll config untouched more (patches.foldl (attempt config) patched) := by
  induction patches generalizing patched with
  | nil => rfl
  | cons patch patches ih =>
      rw [Patch.tryAll, List.all_cons, Bool.and_eq_true] at happlied
      obtain ⟨hpatch, hpatches⟩ := happlied
      have hnext : (patched.attempt config patch).report.isClean := by
        rw [isClean_attempt, hclean, Bool.true_and]
        exact hpatch
      have hkept : (patched.attempt config patch).isRejected config = false := by
        simp [isRejected, hnext]
      rw [List.cons_append, attemptAll, List.foldl_cons]
      simp only [hkept, Bool.false_eq_true, if_false]
      apply ih hnext
      rw [body_attempt]
      exact hpatches

theorem attemptAll_of_applied (config : PatchConfig) (untouched : MethodBody) {patches : List Patch}
    (hclean : patched.report.isClean)
    (happlied : (Patch.tryAll patched.body.method patched.body.code patches).all Trial.isApplied) :
    attemptAll config untouched patches patched = patches.foldl (attempt config) patched := by
  have happend := attemptAll_append config untouched [] hclean happlied
  rwa [List.append_nil] at happend

theorem attemptAll_cons_of_not_applied (hpolicy : config.failurePolicy = .revertMethod)
    (untouched : MethodBody) {patch : Patch} (later : List Patch)
    (hverdict : (patch.verdict patched.body.method patched.body.code).isApplied = false) :
    attemptAll config untouched (patch :: later) patched =
      (patched.attempt config patch).revert untouched := by
  have hrejected : (patched.attempt config patch).isRejected config = true := by
    simp [isRejected, isClean_attempt, hverdict, hpolicy]
  rw [attemptAll]
  simp only [hrejected, if_true]

end Patched

namespace PatchSet

/-- The set under a policy. -/
def under (policy : FailurePolicy) (set : PatchSet) : PatchSet :=
  { set with config := { set.config with failurePolicy := policy } }

/-- The first trial whose patch is not applied, where `earlier` are the patches that are registered
before that one. -/
structure FirstSetback (set : PatchSet) (body : MethodBody) (earlier : List Patch)
    (trial : Trial) : Prop where
  patches : ∃ later, set.patches = earlier ++ trial.patch :: later
  trials : ∃ after, set.trials body = (set.holding earlier).trials body ++ trial :: after
  applied : ((set.holding earlier).trials body).all Trial.isApplied
  not_applied : trial.isApplied = false

theorem exists_firstSetback {set : PatchSet} {body : MethodBody}
    (h : (set.trials body).all Trial.isApplied = false) :
    ∃ earlier trial, set.FirstSetback body earlier trial := by
  have hfound : ((set.trials body).find? fun trial => !trial.isApplied).isSome := by
    rw [List.find?_isSome]
    simpa [List.all_eq_false] using h
  obtain ⟨trial, hfind⟩ := Option.isSome_iff_exists.mp hfound
  obtain ⟨htrial, before, after, htrials, hbefore⟩ := List.find?_eq_some_iff_append.mp hfind
  have haccepted : (set.patches.filter fun patch => patch.appliesTo body.method) =
      before.map Trial.patch ++ trial.patch :: after.map Trial.patch := by
    rw [← set.map_patch_trials, htrials, List.map_append, List.map_cons]
  obtain ⟨first, rest, hpatches, hfirst, hrest⟩ := List.filter_eq_append_iff.mp haccepted
  obtain ⟨gap, later, rfl, hgap, -, -⟩ := List.filter_eq_cons_iff.mp hrest
  have hearlier : (set.holding (first ++ gap)).trials body = before := by
    rw [PatchSet.trials, holding, List.filter_append, hfirst, List.filter_eq_nil_iff.mpr hgap,
      List.append_nil]
    exact Patch.tryAll_map_patch htrials
  refine ⟨first ++ gap, trial, ⟨later, ?_⟩, ⟨after, ?_⟩, ?_, ?_⟩
  · rw [hpatches, List.append_assoc]
  · rw [hearlier, htrials]
  · rw [hearlier]
    simpa using hbefore
  · simpa using htrial

namespace FirstSetback

variable {set : PatchSet} {body : MethodBody} {earlier : List Patch} {trial : Trial}

theorem accepted (h : set.FirstSetback body earlier trial) :
    trial.patch.appliesTo body.method := by
  obtain ⟨after, htrials⟩ := h.trials
  apply set.appliesTo_of_mem_trials
  rw [htrials]
  exact List.mem_append_right _ List.mem_cons_self

/-- What comes of the patches does not depend on the policy, as long as they are tried. -/
theorem under (h : set.FirstSetback body earlier trial) (policy : FailurePolicy) :
    (set.under policy).FirstSetback body earlier trial :=
  ⟨h.patches, h.trials, h.applied, h.not_applied⟩

theorem filter_patches (h : set.FirstSetback body earlier trial) (others : List Patch) :
    ((earlier ++ trial.patch :: others).filter fun patch => patch.appliesTo body.method) =
      (earlier.filter fun patch => patch.appliesTo body.method) ++
        trial.patch :: others.filter fun patch => patch.appliesTo body.method := by
  simp [h.accepted]

theorem verdict_eq (h : set.FirstSetback body earlier trial) :
    trial.verdict = trial.patch.verdict body.method
      (Trial.codeAfterAll body.code ((set.holding earlier).trials body)) := by
  obtain ⟨later, hpatches⟩ := h.patches
  obtain ⟨after, htrials⟩ := h.trials
  rw [PatchSet.trials, hpatches, h.filter_patches, Patch.tryAll_append] at htrials
  exact congrArg Trial.verdict (List.cons.inj (List.append_cancel_left htrials)).1.symm

/-- Where the policy is to put the method back, it is put back there, whatever patches follow. The
report of what was done until then has the entry of that trial behind those of the applied ones. -/
theorem apply_eq (h : set.FirstSetback body earlier trial)
    (hpolicy : set.config.failurePolicy = .revertMethod) :
    ∃ reached : Patched,
      reached.report = (MethodReport.ofTrials body.method.fullName
        ((set.holding earlier).trials body)).append (.ofTrials body.method.fullName [trial]) ∧
      ∀ others, (set.holding (earlier ++ trial.patch :: others)).apply body =
        reached.revert body := by
  let accepts : Patch → Bool := fun patch => patch.appliesTo body.method
  let passed := (earlier.filter accepts).foldl (Patched.attempt set.config) (.start body)
  have hverdict : trial.verdict = trial.patch.verdict passed.body.method passed.body.code := by
    rw [h.verdict_eq, Patched.body_foldl_attempt]
    rfl
  have hnot : (trial.patch.verdict passed.body.method passed.body.code).isApplied = false := by
    rw [← hverdict]
    exact h.not_applied
  refine ⟨passed.attempt set.config trial.patch, ?_, fun others => ?_⟩
  · rw [Patched.report_attempt, ← hverdict, Patched.report_foldl_attempt]
    rfl
  · calc (set.holding (earlier ++ trial.patch :: others)).apply body
      _ = Patched.attemptAll set.config body
          (earlier.filter accepts ++ trial.patch :: others.filter accepts) (.start body) :=
        congrArg (Patched.attemptAll set.config body · (.start body)) (h.filter_patches others)
      _ = Patched.attemptAll set.config body (trial.patch :: others.filter accepts) passed :=
        Patched.attemptAll_append set.config body _ rfl h.applied
      _ = (passed.attempt set.config trial.patch).revert body :=
        Patched.attemptAll_cons_of_not_applied hpolicy body _ hnot

end FirstSetback

/-- Where every patch is applied the policy does not matter. -/
theorem apply_of_applied (set : PatchSet) {body : MethodBody}
    (h : (set.trials body).all Trial.isApplied) :
    (set.under .revertMethod).apply body = (set.under .skipPatch).apply body := by
  rw [(set.under .skipPatch).apply_eq_foldl rfl]
  exact Patched.attemptAll_of_applied _ body rfl h

/-- Putting the method back is all or nothing. Where skipping patches leaves a clean report, every
patch was applied, and both policies do the same. Elsewhere the method is put back as it was. The report
then has a single entry, that of the first patch that is not applied where patches are skipped, with
what came of it there. The patches that are registered after that one are not run. -/
theorem apply_revertMethod (set : PatchSet) (body : MethodBody) :
    let skipped := (set.under .skipPatch).apply body
    let patched := (set.under .revertMethod).apply body
    skipped.report = .ofTrials body.method.fullName (set.trials body) ∧
    (skipped.report.isClean → patched = skipped ∧ patched.report.reverted = false) ∧
    (skipped.report.isClean = false →
      ∃ earlier trial, set.FirstSetback body earlier trial ∧
        patched.body = body ∧
        patched.report = ⟨body.method.fullName, [], [trial].filterMap Trial.missed?,
          [trial].filterMap Trial.failed?, true⟩ ∧
        patched.report.missed.length + patched.report.failed.length = 1 ∧
        ∀ others, ((set.under .revertMethod).holding (earlier ++ trial.patch :: others)).apply body =
          patched) := by
  intro skipped patched
  have hskipped : skipped.report = .ofTrials body.method.fullName (set.trials body) :=
    (set.under .skipPatch).report_apply rfl body
  have hclean : skipped.report.isClean = (set.trials body).all Trial.isApplied := by
    rw [hskipped, MethodReport.isClean_ofTrials]
  refine ⟨hskipped, fun h => ?_, fun h => ?_⟩
  · have hsame : patched = skipped := set.apply_of_applied (hclean ▸ h)
    exact ⟨hsame, by rw [hsame, hskipped, MethodReport.ofTrials]⟩
  · obtain ⟨earlier, trial, hfirst⟩ := exists_firstSetback (hclean ▸ h)
    obtain ⟨reached, hreport, hothers⟩ :=
      (hfirst.under .revertMethod).apply_eq rfl
    obtain ⟨later, hpatches⟩ := hfirst.patches
    have hpatched : patched = reached.revert body := by
      rw [← hothers later, holding, ← hpatches]
      rfl
    have hentry : patched.report = ⟨body.method.fullName, [], [trial].filterMap Trial.missed?,
        [trial].filterMap Trial.failed?, true⟩ := by
      rw [hpatched, Patched.revert, hreport, MethodReport.revert_append]
      · rfl
      · rw [MethodReport.isClean_ofTrials]
        exact hfirst.applied
    refine ⟨earlier, trial, hfirst, ?_, hentry, ?_, fun others => ?_⟩
    · rw [hpatched, Patched.revert]
    · rw [hentry]
      exact Trial.length_of_not_applied hfirst.not_applied
    · rw [hothers others, hpatched]

/-- Of three patches the second one removes an instruction and then reports that its place was not
found. Skipped, it leaves the two others; otherwise the method is as it was before the run. -/
theorem apply_revertMethod_lost :
    let method : Method := ⟨.classType "A", "B", ⟨.plain, [], .void⟩, []⟩
    let body : MethodBody := ⟨method, [.make .ret]⟩
    let nop (name : String) : Patch :=
      ⟨name, none, none, fun _ => do Edit.insertBefore [.make .nop]; return .applied⟩
    let lost : Patch := ⟨"lost", none, none, fun _ => do Edit.remove 1; return .anchorNotFound⟩
    let set : PatchSet := ⟨[nop "first", lost, nop "second"], .standard⟩
    let skipped := (set.under .skipPatch).apply body
    let patched := (set.under .revertMethod).apply body
    (skipped.report.applied, skipped.report.missed) = (["first", "second"], ["lost"]) ∧
      skipped.body.code.map Instruction.opcode = [.nop, .nop, .ret] ∧
      (patched.report.missed, patched.report.reverted) = (["lost"], true) ∧
      ∃ earlier trial, set.FirstSetback body earlier trial ∧ patched.body = body := by
  intro method body nop lost set skipped patched
  obtain ⟨-, -, hunclean⟩ := apply_revertMethod set body
  obtain ⟨earlier, trial, hfirst, hbody, -⟩ := hunclean rfl
  exact ⟨rfl, rfl, rfl, earlier, trial, hfirst, hbody⟩

end PatchSet

end CilEdit
