import Provisioning.Proofs.Except
import Provisioning.Run

/-! # What a run asks of a machine

The machine of a run answers command after command, each from the state that the one before left. A step
is told apart by what it meets: no directory, no start, or an ending. Every run leaves the machine as the
commands it handed over leave it, and those commands are the first ones of its steps. -/
namespace Provisioning

namespace Host

variable {σ : Type}

/-- The state after some commands were started one after another. -/
def after (host : Host σ) (s : σ) (commands : List Command) : σ :=
  commands.foldl (fun s c => (host.start s c).next) s

/-- What came of some commands that were started one after another. -/
def replies (host : Host σ) : σ → List Command → List Reply
  | _, [] => []
  | s, c :: rest => (host.start s c).reply :: replies host (host.start s c).next rest

/-- Those of some commands that could be started, one after another. -/
def started (host : Host σ) : σ → List Command → List Command
  | _, [] => []
  | s, c :: rest =>
    let launch := host.start s c
    if launch.reply.isOk then c :: started host launch.next rest else started host launch.next rest

@[simp] theorem after_nil (host : Host σ) (s : σ) : host.after s [] = s := rfl

@[simp] theorem after_cons (host : Host σ) (s : σ) (c : Command) (rest : List Command) :
    host.after s (c :: rest) = host.after (host.start s c).next rest := rfl

theorem after_append (host : Host σ) (s : σ) (commands more : List Command) :
    host.after s (commands ++ more) = host.after (host.after s commands) more :=
  List.foldl_append

/-- A machine that also logs is left as it is by the commands. -/
theorem after_logged (host : Host σ) (s : σ) (commands : List Command) :
    host.logged.after s commands = host.after s commands := rfl

@[simp] theorem replies_nil (host : Host σ) (s : σ) : host.replies s [] = [] := rfl

@[simp] theorem replies_cons (host : Host σ) (s : σ) (c : Command) (rest : List Command) :
    host.replies s (c :: rest) =
      (host.start s c).reply :: host.replies (host.start s c).next rest := rfl

theorem started_of_ok {host : Host σ} {s : σ} {c : Command} {status : ExitStatus}
    (h : (host.start s c).reply = .ok status) (rest : List Command) :
    host.started s (c :: rest) = c :: host.started (host.start s c).next rest := by
  simp [started, h, Except.isOk, Except.toBool]

theorem started_of_error {host : Host σ} {s : σ} {c : Command} {cause : SystemError}
    (h : (host.start s c).reply = .error cause) (rest : List Command) :
    host.started s (c :: rest) = host.started (host.start s c).next rest := by
  simp [started, h, Except.isOk, Except.toBool]

theorem started_logged (host : Host σ) (s : σ) (commands : List Command) :
    host.logged.started s commands = host.started s commands := by
  induction commands generalizing s with
  | nil => rfl
  | cons c rest ih =>
    rw [started, started, ← ih]
    rfl

/-- The reply to a command depends on the commands before it alone. -/
theorem replies_getElem? (host : Host σ) (s : σ) (commands : List Command) (k : Nat) :
    (host.replies s commands)[k]? =
      commands[k]?.map fun c => (host.start (host.after s (commands.take k)) c).reply := by
  induction commands generalizing s k with
  | nil => rfl
  | cons c rest ih =>
    cases k with
    | zero => rfl
    | succ k => exact ih (host.start s c).next k

end Host

theorem ExitStatus.isSuccess_iff (status : ExitStatus) :
    status.isSuccess = true ↔ status.code = some 0 := by
  simp [ExitStatus.isSuccess]

namespace Step

variable {σ : Type}

/-- The command names a directory that is none. -/
def LacksDirectory (host : Host σ) (s : σ) (step : Step) : Prop :=
  ∃ d, step.command.directory = some d ∧ host.isDirectory s d = false

/-- How the command ends, if it can be started. -/
def reply (host : Host σ) (s : σ) (step : Step) : Reply :=
  (host.start s step.command).reply

/-- What a command that ended means where the run goes on. -/
inductive EndsAs (step : Step) (status : ExitStatus) : Outcome → Prop
  | succeeded : status.code = some 0 → EndsAs step status .succeeded
  | assumedExisting : status.code ≠ some 0 → step.onFailure = .assumeExists →
      EndsAs step status (.assumedExisting status)
  | failed {cleanup : Command} : status.code ≠ some 0 →
      step.onFailure = .continueAndRemove cleanup → EndsAs step status (.failed status cleanup.line)

/-- What a step that goes on leaves in the report. -/
def Reports (host : Host σ) (s : σ) (step : Step) (report : StepReport) : Prop :=
  ∃ status outcome, step.reply host s = .ok status ∧ step.EndsAs status outcome ∧
    report = ⟨step.label, step.command.line, outcome⟩

/-- The failure with which a step stops a run that comes to it in some state. A missing directory is
noticed before the start, and no start is tolerated to fail. -/
inductive StopsWith (host : Host σ) (s : σ) (step : Step) : Failure → Prop
  | directory {d : Path} : step.command.directory = some d → host.isDirectory s d = false →
      StopsWith host s step (.schemaDirectoryMissing d)
  | start {cause : SystemError} : ¬ step.LacksDirectory host s →
      step.reply host s = .error cause →
      StopsWith host s step (.notStarted step.command.line cause)
  | ending {status : ExitStatus} : ¬ step.LacksDirectory host s →
      step.reply host s = .ok status → status.code ≠ some 0 → step.onFailure = .stop →
      StopsWith host s step (.stepFailed step.label status)
  | table {status : ExitStatus} {cleanup : Command} : ¬ step.LacksDirectory host s →
      step.reply host s = .ok status → status.code ≠ some 0 →
      step.onFailure = .stopAndRemove cleanup →
      StopsWith host s step (.tableFailed step.label status cleanup.line)

theorem missingDirectory?_eq_some_iff (host : Host σ) (s : σ) (step : Step) (d : Path) :
    step.missingDirectory? host s = some d ↔
      step.command.directory = some d ∧ host.isDirectory s d = false := by
  simp [missingDirectory?, Option.filter_eq_some_iff]

theorem missingDirectory?_eq_none_iff (host : Host σ) (s : σ) (step : Step) :
    step.missingDirectory? host s = none ↔ ¬ step.LacksDirectory host s := by
  constructor
  · rintro h ⟨d, hd⟩
    rw [(step.missingDirectory?_eq_some_iff host s d).2 hd] at h
    cases h
  · intro h
    cases hm : step.missingDirectory? host s with
    | none => rfl
    | some d => exact absurd ⟨d, (step.missingDirectory?_eq_some_iff host s d).1 hm⟩ h

/-- A step that lacks its directory hands nothing over; any other hands its command over. What it leaves
is the failure it stops with, or else its entry of the report. -/
theorem run_cases (host : Host σ) (s : σ) (step : Step) :
    (∃ d, step.command.directory = some d ∧ host.isDirectory s d = false ∧
      (step.run host s).result = .error (.schemaDirectoryMissing d) ∧
      (step.run host s).calls = [] ∧ (step.run host s).final = s) ∨
    (¬ step.LacksDirectory host s ∧
      ((∃ failure, step.StopsWith host s failure ∧ (step.run host s).result = .error failure) ∨
        ∃ report, step.Reports host s report ∧ (step.run host s).result = .ok report) ∧
      (step.run host s).calls = [step.command] ∧
      (step.run host s).final = (host.start s step.command).next) := by
  cases hm : step.missingDirectory? host s with
  | some d =>
    obtain ⟨hd, hno⟩ := (step.missingDirectory?_eq_some_iff host s d).1 hm
    exact .inl ⟨d, hd, hno, by simp [run, hm]⟩
  | none =>
    have hdir := (step.missingDirectory?_eq_none_iff host s).1 hm
    refine .inr ⟨hdir, ?_⟩
    cases hr : (host.start s step.command).reply with
    | error cause =>
      exact ⟨.inl ⟨_, .start hdir hr, by simp [run, hm, hr]⟩, by simp [run, hm, hr],
        by simp [run, hm, hr]⟩
    | ok status =>
      have hrun : (step.run host s).result =
          (step.verdict status).map fun outcome => ⟨step.label, step.command.line, outcome⟩ := by
        simp [run, hm, hr]
      refine ⟨?_, by simp [run, hm, hr], by simp [run, hm, hr]⟩
      rw [hrun]
      by_cases hc : status.code = some 0
      · simp only [verdict, (status.isSuccess_iff).2 hc, if_true]
        exact .inr ⟨_, ⟨status, _, hr, .succeeded hc, rfl⟩, rfl⟩
      · have hs : status.isSuccess = false := by simpa using mt (status.isSuccess_iff).1 hc
        simp only [verdict, hs, Bool.false_eq_true, if_false]
        cases hf : step.onFailure with
        | stop => exact .inl ⟨_, .ending hdir hr hc hf, rfl⟩
        | assumeExists => exact .inr ⟨_, ⟨status, _, hr, .assumedExisting hc hf, rfl⟩, rfl⟩
        | stopAndRemove cleanup => exact .inl ⟨_, .table hdir hr hc hf, rfl⟩
        | continueAndRemove cleanup => exact .inr ⟨_, ⟨status, _, hr, .failed hc hf, rfl⟩, rfl⟩

theorem run_calls_of_lacks {host : Host σ} {s : σ} {step : Step}
    (h : step.LacksDirectory host s) : (step.run host s).calls = [] := by
  rcases step.run_cases host s with ⟨_, -, -, -, hcalls, -⟩ | ⟨hdir, -⟩
  · exact hcalls
  · exact absurd h hdir

theorem run_calls_of_not_lacks {host : Host σ} {s : σ} {step : Step}
    (h : ¬ step.LacksDirectory host s) : (step.run host s).calls = [step.command] := by
  rcases step.run_cases host s with ⟨d, hd, hno, -⟩ | ⟨-, -, hcalls, -⟩
  · exact absurd ⟨d, hd, hno⟩ h
  · exact hcalls

theorem run_final (host : Host σ) (s : σ) (step : Step) :
    (step.run host s).final = host.after s (step.run host s).calls := by
  rcases step.run_cases host s with ⟨_, -, -, -, hcalls, hfinal⟩ | ⟨-, -, hcalls, hfinal⟩
  · rw [hcalls, hfinal, Host.after_nil]
  · rw [hcalls, hfinal, Host.after_cons, Host.after_nil]

end Step

variable {σ : Type}

theorem runSteps_of_error {host : Host σ} {s : σ} {step : Step} {failure : Failure}
    (rest : List Step) (h : (step.run host s).result = .error failure) :
    runSteps host (step :: rest) s = ⟨.error failure, (step.run host s).events,
      (step.run host s).calls, (step.run host s).final⟩ := by
  simp only [runSteps, h]

theorem runSteps_of_ok {host : Host σ} {s : σ} {step : Step} {report : StepReport}
    (rest : List Step) (h : (step.run host s).result = .ok report) :
    runSteps host (step :: rest) s =
      let later := runSteps host rest (step.run host s).final
      ⟨later.result.map (report :: ·), (step.run host s).events ++ later.events,
        (step.run host s).calls ++ later.calls, later.final⟩ := by
  simp only [runSteps, h]

/-- The machine is left as the commands that were handed over leave it. -/
theorem runSteps_final (host : Host σ) (steps : List Step) (s : σ) :
    (runSteps host steps s).final = host.after s (runSteps host steps s).calls := by
  induction steps generalizing s with
  | nil => rfl
  | cons step rest ih =>
    cases h : (step.run host s).result with
    | error failure => rw [runSteps_of_error rest h, step.run_final]
    | ok report =>
      rw [runSteps_of_ok rest h]
      simp only [ih, step.run_final, Host.after_append]

end Provisioning
