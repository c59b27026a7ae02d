import Provisioning.Failure
import Provisioning.Host
import Provisioning.Plan
import Provisioning.Report

/-! # Runs

Carries out the steps of a plan one after another. A step stops the run when the directory of its
command is missing, when the command cannot be started, or when it ends badly and its failure means so.
What the run did before is found in its calls and events. -/
namespace Provisioning

/-- What was done: the result, the events and the commands handed to the machine in order, and the
machine's state afterwards. -/
structure Run (σ α : Type) where
  result : Except Failure α
  events : List Event
  calls : List Command
  final : σ

namespace Step

/-- The announcement of a step. -/
def announcement (step : Step) : List Event :=
  ⟨.info, .provisioner, "- " ++ step.label⟩ ::
    (step.note.map fun note => Event.mk .info .provisioner ("  " ++ note)).toList

/-- The label with how the command ended. -/
def failedText (step : Step) (status : ExitStatus) : String :=
  step.label ++ " failed (" ++ status.display ++ ")"

/-- What is logged of how the command ended. -/
def verdictEvents (step : Step) (status : ExitStatus) : List Event :=
  if status.isSuccess then []
  else
    match step.onFailure with
    | .stop | .stopAndRemove _ => [⟨.error, .provisioner, step.failedText status⟩]
    | .assumeExists =>
      [⟨.warn, .provisioner,
        step.failedText status ++ "; assuming the resource already exists"⟩]
    | .continueAndRemove _ =>
      [⟨.warn, .provisioner, step.failedText status ++ "; continuing"⟩]

/-- What the end of the command means. -/
def verdict (step : Step) (status : ExitStatus) : Except Failure Outcome :=
  if status.isSuccess then .ok .succeeded
  else
    match step.onFailure with
    | .stop => .error (.stepFailed step.label status)
    | .assumeExists => .ok (.assumedExisting status)
    | .stopAndRemove cleanup => .error (.tableFailed step.label status cleanup.line)
    | .continueAndRemove cleanup => .ok (.failed status cleanup.line)

/-- The directory of the command, if it is missing. -/
def missingDirectory? {σ : Type} (host : Host σ) (s : σ) (step : Step) : Option Path :=
  step.command.directory.filter fun d => !host.isDirectory s d

/-- Carries out one step. -/
def run {σ : Type} (host : Host σ) (step : Step) (s : σ) : Run σ StepReport :=
  match step.missingDirectory? host s with
  | some d =>
    { result := .error (.schemaDirectoryMissing d)
      events := step.announcement
      calls := []
      final := s }
  | none =>
    let launch := host.start s step.command
    let started : Event := ⟨.debug, .provisioner, "running " ++ step.command.line⟩
    let before := step.announcement ++ started :: launch.events
    match launch.reply with
    | .error cause =>
      { result := .error (.notStarted step.command.line cause)
        events := before
        calls := [step.command]
        final := launch.next }
    | .ok status =>
      { result := (step.verdict status).map fun outcome =>
          ⟨step.label, step.command.line, outcome⟩
        events := before ++ step.verdictEvents status
        calls := [step.command]
        final := launch.next }

end Step

/-- Carries out steps in order, up to the first that stops the run. -/
def runSteps {σ : Type} (host : Host σ) : List Step → σ → Run σ (List StepReport)
  | [], s => ⟨.ok [], [], [], s⟩
  | step :: rest, s =>
    let first := step.run host s
    match first.result with
    | .error failure => ⟨.error failure, first.events, first.calls, first.final⟩
    | .ok report =>
      let later := runSteps host rest first.final
      { result := later.result.map (report :: ·)
        events := first.events ++ later.events
        calls := first.calls ++ later.calls
        final := later.final }

/-- Carries out a plan. -/
def Plan.run {σ : Type} (plan : Plan) (host : Host σ) (s : σ) : Run σ Report :=
  let steps := runSteps host plan.steps s
  { result := steps.result.map Report.mk
    events :=
      ⟨.info, .provisioner, "provisioning BigQuery for " ++ plan.project.text⟩ :: steps.events
    calls := steps.calls
    final := steps.final }

end Provisioning
