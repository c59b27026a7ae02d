import Provisioning.ExitStatus

/-! # Reports

What became of each step of a run that came to its end. -/
namespace Provisioning

/-- What became of a step. -/
inductive Outcome where
  | succeeded
  | assumedExisting (status : ExitStatus)
  | failed (status : ExitStatus) (cleanup : String)
deriving DecidableEq, Repr

/-- A step that was carried out. -/
structure StepReport where
  label : String
  command : String
  outcome : Outcome
deriving DecidableEq, Repr

/-- The steps of a run in order. -/
structure Report where
  steps : List StepReport
deriving DecidableEq, Repr

/-- The cleanup that a step leaves to do, with its label. -/
def StepReport.pendingCleanup? (s : StepReport) : Option (String × String) :=
  match s.outcome with
  | .failed _ cleanup => some (s.label, cleanup)
  | _ => none

/-- The cleanups that a run leaves to do, in order. -/
def Report.pendingCleanups (r : Report) : List (String × String) :=
  r.steps.filterMap StepReport.pendingCleanup?

end Provisioning
