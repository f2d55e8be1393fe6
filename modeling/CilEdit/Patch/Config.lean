import CilEdit.Text.Outline

/-! How patches are applied. -/

namespace CilEdit

/-- What happens to a method when one of its patches finds no anchor or fails. -/
inductive FailurePolicy where
  /-- that patch alone is dropped -/
  | skipPatch
  /-- the method is put back as it was, and no further patch is tried -/
  | revertMethod
  deriving DecidableEq

structure PatchConfig where
  /-- whether different methods may be patched at the same time, which no result depends on -/
  parallel : Bool
  /-- what happens when a patch cannot be applied -/
  failurePolicy : FailurePolicy
  /-- whether a missing anchor deserves a warning -/
  warnOnMiss : Bool
  deriving DecidableEq

def FailurePolicy.outline : FailurePolicy → String
  | .skipPatch => "SkipPatch"
  | .revertMethod => "RevertMethod"

namespace PatchConfig

/-- Methods may be patched at the same time, a patch that cannot be applied is skipped, and a
missing anchor deserves a warning. -/
def standard : PatchConfig := ⟨true, .skipPatch, true⟩

def outline (config : PatchConfig) : String :=
  Outline.record "PatchConfig" [("parallel", Outline.bool config.parallel),
    ("failure_policy", config.failurePolicy.outline),
    ("warn_on_miss", Outline.bool config.warnOnMiss)]

end PatchConfig

end CilEdit
