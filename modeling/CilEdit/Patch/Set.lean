import CilEdit.Patch.Basic
import CilEdit.Patch.Config
import CilEdit.Patch.Report

/-! Sets of patches. The patches of a set are tried on a method in order, each on the code that the
last applied one left. A patch that finds no anchor or fails changes nothing; the policy decides
whether the method is then put back as it was. -/

namespace CilEdit

structure PatchSet where
  patches : List Patch
  config : PatchConfig

/-- A method on which some patches were tried. -/
structure Patched where
  /-- the method with the code that the applied patches left -/
  body : MethodBody
  report : MethodReport
  log : List LogEntry

namespace Patched

def start (body : MethodBody) : Patched := ⟨body, .start body.method.fullName, []⟩

def missEntry (config : PatchConfig) (patch method : String) : LogEntry :=
  if config.warnOnMiss then
    .warn s!"patch '{patch}' could not find its anchor in {method}, skipping"
  else .debug s!"patch '{patch}' missed its anchor in {method}"

def attempt (config : PatchConfig) (patched : Patched) (patch : Patch) : Patched :=
  let name := patch.name
  let method := patched.body.method.fullName
  let (result, session) := patch.run patched.body
  let log := patched.log ++ session.log
  match result with
  | .ok (.applied, code) =>
    { body := { patched.body with code := code }
      report := patched.report.addApplied name
      log := log ++ [.debug s!"patch '{name}' applied to {method}"] }
  | .ok (.anchorNotFound, _) =>
    { patched with
      report := patched.report.addMissed name, log := log ++ [missEntry config name method] }
  | .error error =>
    { patched with
      report := patched.report.addFailed name error
      log := log ++ [.warn s!"patch '{name}' failed on {method}: {error.text}"] }

/-- Puts the code back as it was in `untouched`. -/
def revert (untouched : MethodBody) (patched : Patched) : Patched :=
  { body := untouched
    report := patched.report.revert
    log := patched.log ++
      [.warn s!"reverting {untouched.method.fullName} to its unmodified body"] }

/-- Whether a patch could not be applied and the policy asks to put the code back. -/
def isRejected (config : PatchConfig) (patched : Patched) : Bool :=
  !patched.report.isClean && config.failurePolicy == .revertMethod

/-- Tries patches in order, until the method is to be put back. -/
def attemptAll (config : PatchConfig) (untouched : MethodBody) : List Patch → Patched → Patched
  | [], patched => patched
  | patch :: patches, patched =>
    let next := patched.attempt config patch
    if next.isRejected config then next.revert untouched
    else attemptAll config untouched patches next

end Patched

/-- What came of a run over several methods. -/
structure PatchRun where
  /-- the methods with their code after it, in order -/
  bodies : List MethodBody
  report : RunReport
  log : List LogEntry

namespace PatchSet

/-- Applies to a method the patches whose filter lets it pass. -/
def apply (set : PatchSet) (body : MethodBody) : Patched :=
  Patched.attemptAll set.config body (set.patches.filter fun patch => patch.appliesTo body.method)
    (.start body)

def applyEach (set : PatchSet) (bodies : List MethodBody) : PatchRun :=
  let patched := bodies.map set.apply
  ⟨patched.map Patched.body, ⟨patched.map Patched.report⟩, patched.flatMap Patched.log⟩

/-- Applies the set to each of some methods and logs the totals. -/
def applyAll (set : PatchSet) (bodies : List MethodBody) : PatchRun :=
  let run := set.applyEach bodies
  { run with log := run.log ++ [.debug s!"patch run finished: {run.report.summary}"] }

end PatchSet

end CilEdit
