import CilEdit.EditError

/-! Reports: what became of each patch that was tried on a method, and the totals of a run. -/

namespace CilEdit

/-- What became of the patches of one method. -/
structure MethodReport where
  method : String
  /-- the patches whose edits were kept -/
  applied : List String
  /-- the patches that found no anchor -/
  missed : List String
  /-- the patches that failed, each with its failure -/
  failed : List (String × EditError)
  /-- whether the code was put back as it had been -/
  reverted : Bool

namespace MethodReport

def start (method : String) : MethodReport := ⟨method, [], [], [], false⟩

def isClean (report : MethodReport) : Bool := report.missed.isEmpty && report.failed.isEmpty

def addApplied (report : MethodReport) (patch : String) : MethodReport :=
  { report with applied := report.applied ++ [patch] }

def addMissed (report : MethodReport) (patch : String) : MethodReport :=
  { report with missed := report.missed ++ [patch] }

def addFailed (report : MethodReport) (patch : String) (error : EditError) : MethodReport :=
  { report with failed := report.failed ++ [(patch, error)] }

/-- Notes that the code was put back, so that no edit was kept. -/
def revert (report : MethodReport) : MethodReport :=
  { report with applied := [], reverted := true }

end MethodReport

/-- The reports on all methods of a run, in order. -/
structure RunReport where
  methods : List MethodReport

namespace RunReport

def appliedCount (run : RunReport) : Nat :=
  run.methods.foldl (fun count report => count + report.applied.length) 0

/-- The methods and patches where an anchor was missing. -/
def missed (run : RunReport) : List (String × String) :=
  run.methods.flatMap fun report => report.missed.map fun patch => (report.method, patch)

/-- The methods and patches where an edit failed, with the failure. -/
def failed (run : RunReport) : List (String × String × EditError) :=
  run.methods.flatMap fun report => report.failed.map fun entry => (report.method, entry)

def revertedCount (run : RunReport) : Nat := run.methods.countP MethodReport.reverted

def isClean (run : RunReport) : Bool := run.methods.all MethodReport.isClean

def summary (run : RunReport) : String :=
  s!"{run.methods.length} method(s): {run.appliedCount} applied, {run.missed.length} missed, " ++
    s!"{run.failed.length} failed, {run.revertedCount} reverted"

end RunReport

end CilEdit
