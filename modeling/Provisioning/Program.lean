import Provisioning.Options.Help
import Provisioning.Process
import Provisioning.Run

/-! # The program

One call of the program: it reads its arguments, looks for the tools it needs, plans and carries out
the plan. What went wrong first is all that is reported: help and version come before the tools, these
before misuse, and then the project id before the layout. -/
namespace Provisioning

/-- How a call of the program ends. -/
inductive Ending where
  | help (called : String)
  | version
  | misuse
  | failed (failure : Failure)
  | finished (report : Report)
deriving DecidableEq, Repr

namespace Ending

/-- The ending after a run. -/
def ofResult : Except Failure Report → Ending
  | .error failure => .failed failure
  | .ok report => .finished report

/-- The exit code: a run that came to its end succeeds even where the view could not be created. -/
def exitCode : Ending → Nat
  | .help _ | .version | .finished _ => 0
  | .misuse | .failed _ => 1

/-- What to do about a step that failed without stopping the run. -/
def cleanupText (label cleanup : String) : String :=
  "\n" ++ label ++ " failed. You may need to delete it with:\n\n  " ++ cleanup ++ "\n\nand run " ++
    Options.programName ++ " again.\n"

/-- What to do about a table that was left half made. -/
def restartText (message cleanup : String) : String :=
  "\n" ++ message ++
    "\n\nOh no! You may need to restart from scratch. You can do so with:\n\n  " ++ cleanup ++
    "\n\nand run " ++ Options.programName ++ " again.\n"

/-- A failure as the user sees it. -/
def failureText (account : Layout.Account) (failure : Failure) : String :=
  match failure with
  | .invalidProjectId _ => failure.message ++ "\n\n" ++ Options.usage
  | .tableFailed _ _ cleanup => restartText failure.message cleanup
  | _ => failure.chain account ++ "\n"

/-- What is printed at the end, with the given words for a malformed configuration. -/
def text (account : Layout.Account) : Ending → String
  | .help called => Options.help called
  | .version => Options.version
  | .misuse => Options.usage
  | .failed failure => failureText account failure
  | .finished report =>
    String.join (report.pendingCleanups.map fun pending => cleanupText pending.1 pending.2)

end Ending

/-- What was done in one call of the program: how it ended, the events, the commands handed to the
machine in order, and the machine's state afterwards. -/
structure Performance (σ : Type) where
  ending : Ending
  events : List Event := []
  calls : List Command := []
  final : σ

namespace Program

/-- The layout that options ask for. -/
def layout {σ : Type} (m : Machine σ) (s : σ) (o : Options) : Except Failure Layout := do
  let base ←
    match o.configuration with
    | some path =>
      (Layout.load (m.read s) path).mapError (.layout · (Layout.document (m.read s) path))
    | none => .ok Layout.standard
  return { base with schemaDirectory := o.schemaDirectory.getD base.schemaDirectory }

/-- The plan that options ask for; the project id is looked at before the layout. -/
def plan {σ : Type} (m : Machine σ) (s : σ) (o : Options) : Except Failure Plan := do
  let project ← ProjectId.parse o.project
  return Plan.ofLayout (← layout m s o) project

/-- Carries out a plan for real. -/
def execute {σ : Type} (m : Machine σ) (s : σ) (plan : Plan) : Performance σ :=
  let run := plan.run m.host.logged s
  { ending := Ending.ofResult run.result
    events := run.events
    calls := run.calls
    final := run.final }

/-- Shows what carrying out a plan would do. -/
def preview {σ : Type} (m : Machine σ) (s : σ) (plan : Plan) : Performance σ :=
  let run := plan.run (Host.preview m.isDirectory) s
  { ending := Ending.ofResult run.result
    events := run.events
    final := run.final }

/-- Does what options ask for. -/
def perform {σ : Type} (m : Machine σ) (s : σ) (o : Options) : Performance σ :=
  match plan m s o with
  | .error failure => { ending := .failed failure, final := s }
  | .ok plan => if o.preview then preview m s plan else execute m s plan

/-- What is logged of arguments that do not fit. The reader of the arguments adds an account of its own, which
is left out here: it is logged for debugging and shown nowhere else. -/
def misuseEvent : Event :=
  ⟨.debug, .commandLine, "argument error"⟩

/-- Does what arguments ask for, help and version apart, where the tools are there. -/
def respond {σ : Type} (m : Machine σ) (s : σ) :
    Except Options.Stop Options → Performance σ
  | .ok o => perform m s o
  | .error _ => { ending := .misuse, events := [misuseEvent], final := s }

/-- One call of the program, with the path it was called by and its arguments. -/
def call {σ : Type} (m : Machine σ) (s : σ) (called : Path) (words : List Word) : Performance σ :=
  match Options.parse words with
  | .error .help => { ending := .help (Options.calledName called), final := s }
  | .error .version => { ending := .version, final := s }
  | parsed =>
    let (tools, found) := Tool.lookUpRequired (m.surroundings s) m.searchPath m.directory.path
    match tools with
    | .error failure => { ending := .failed failure, events := found, final := s }
    | .ok () =>
      let rest := respond m s parsed
      { rest with events := found ++ rest.events }

end Program

end Provisioning
