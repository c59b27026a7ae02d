import Provisioning.Proofs.Plan.Resources
import Provisioning.Proofs.Run.Cleanups
import Provisioning.Proofs.Run.Completion

/-! # What a finished run has done

A run that comes to its end has handed over one command for every step of its plan, and for a layout the
words of these commands tell a fixed story: the service, the role, the dataset, each table in order and the
view. Its report has an entry for each. Only the dataset and the view may have ended badly, and only the
view, which comes last, leaves a cleanup to do. -/
namespace Provisioning

/-- What a command does. -/
inductive Purpose where
  | enableService
  | grantRole
  | makeDataset
  /-- The schema tool runs in a directory, with values of its options. -/
  | updateTable (message target partitioningField : Option String) (directory : Option Path)
  | makeView
  | other
deriving DecidableEq, Repr

/-- What a command does, by its program and the words that choose among what that can do. -/
def Command.purpose (c : Command) : Purpose :=
  match c.program, c.arguments with
  | "gcloud", "services" :: "enable" :: _ => .enableService
  | "gcloud", "projects" :: "add-iam-policy-binding" :: _ => .grantRole
  | "bq", _ :: "mk" :: "--dataset" :: _ => .makeDataset
  | "bq", "mk" :: _ :: "--view" :: _ => .makeView
  | "bqschemaupdater", arguments =>
    .updateTable (schemaOption? "-message" arguments) (schemaOption? "-table" arguments)
      (schemaOption? "-partitioning-field" arguments) c.directory
  | _, _ => .other

namespace Plan

/-- What the commands of the plan for a layout do. -/
def purposes (layout : Layout) (project : ProjectId) : List Purpose :=
  [.enableService, .grantRole, .makeDataset] ++
    (layout.tables.map fun table =>
      .updateTable table.message (tableTarget project layout.dataset table.name)
        table.partitioningField layout.schemaDirectory) ++
    [.makeView]

theorem purposes_eq_map (layout : Layout) (project : ProjectId) :
    (ofLayout layout project).steps.map (·.command.purpose) = purposes layout project := by
  have htables : (tableSteps layout project).map (·.command.purpose) =
      layout.tables.map fun table =>
        .updateTable table.message (tableTarget project layout.dataset table.name)
          table.partitioningField layout.schemaDirectory := by
    unfold tableSteps
    cases layout.tables with
    | nil => rfl
    | cons table rest =>
      rw [List.map_cons, List.map_map, List.map_cons]
      rfl
  rw [ofLayout, List.map_append, List.map_append, htables]
  rfl

end Plan

/-! ## Outcomes -/

variable {σ : Type}

namespace Step

variable {step : Step} {status : ExitStatus} {outcome : Outcome}

theorem EndsAs.of_isFatal (h : step.EndsAs status outcome) (hfatal : step.onFailure.IsFatal) :
    outcome = .succeeded := by
  cases h with
  | succeeded => rfl
  | assumedExisting _ hf => exact absurd hfatal (by simp [OnFailure.IsFatal, hf])
  | failed _ hf => exact absurd hfatal (by simp [OnFailure.IsFatal, hf])

theorem EndsAs.of_assumeExists (h : step.EndsAs status outcome) (hf : step.onFailure = .assumeExists) :
    outcome = if status.isSuccess then .succeeded else .assumedExisting status := by
  cases h with
  | succeeded hc => rw [if_pos ((status.isSuccess_iff).2 hc)]
  | assumedExisting hc => rw [if_neg (mt (status.isSuccess_iff).1 hc)]
  | failed _ hf' => cases hf.symm.trans hf'

theorem EndsAs.of_continueAndRemove {cleanup : Command} (h : step.EndsAs status outcome)
    (hf : step.onFailure = .continueAndRemove cleanup) :
    outcome = if status.isSuccess then .succeeded else .failed status cleanup.line := by
  cases h with
  | succeeded hc => rw [if_pos ((status.isSuccess_iff).2 hc)]
  | assumedExisting _ hf' => cases hf.symm.trans hf'
  | failed hc hf' =>
    cases hf.symm.trans hf'
    rw [if_neg (mt (status.isSuccess_iff).1 hc)]

end Step

/-- If only the last entry can leave a cleanup to do, the report leaves what that entry does. -/
theorem Report.pendingCleanups_of_last {report : Report} {n : Nat} {last : StepReport}
    (hlength : report.steps.length = n + 1) (hlast : report.steps[n]? = some last)
    (hnone : ∀ (k : Nat) (entry : StepReport), k < n → report.steps[k]? = some entry →
      entry.pendingCleanup? = none) :
    report.pendingCleanups = last.pendingCleanup?.toList := by
  have hsplit : report.steps = report.steps.take n ++ [last] := by
    have hall : report.steps.take (n + 1) = report.steps := List.take_of_length_le (Nat.le_of_eq hlength)
    rw [List.take_add_one, hlast] at hall
    exact hall.symm
  have hfirst : (report.steps.take n).filterMap StepReport.pendingCleanup? = [] := by
    rw [List.filterMap_eq_nil_iff]
    intro entry hentry
    obtain ⟨k, hk⟩ := List.mem_iff_getElem?.1 hentry
    rw [List.getElem?_take] at hk
    split at hk
    · next hlt => exact hnone k entry hlt hk
    · cases hk
  rw [pendingCleanups, hsplit, List.filterMap_append, hfirst]
  cases hpending : last.pendingCleanup? <;> simp [hpending]

namespace Plan

variable {layout : Layout} {project : ProjectId} {host : Host σ} {s : σ}

/-- A run that comes to its end has handed over every command, and its report has an entry for each step,
which tells how the command ended. -/
theorem reports_of_finished {report : Report}
    (h : ((ofLayout layout project).run host s).result = .ok report) :
    ((ofLayout layout project).run host s).calls = (ofLayout layout project).steps.map Step.command ∧
    report.steps.length = layout.tables.length + 4 ∧
    ∀ (k : Nat) (step : Step), (ofLayout layout project).steps[k]? = some step →
      ∃ entry, report.steps[k]? = some entry ∧
        step.Reports host (stateBefore host s (ofLayout layout project).steps k) entry := by
  obtain ⟨reports, hreports, rfl⟩ := map_eq_ok.1 h
  obtain ⟨reports', hok, hcalls, hlength, hall⟩ :=
    runSteps_of_no_stop ((runSteps_eq_ok_iff host s _).1 ⟨reports, hreports⟩)
  cases hreports.symm.trans hok
  exact ⟨hcalls, by rw [hlength, steps_length], hall⟩

theorem replies_of_finished {report : Report}
    (h : ((ofLayout layout project).run host s).result = .ok report) {k : Nat} {step : Step}
    (hstep : (ofLayout layout project).steps[k]? = some step) :
    (host.replies s ((ofLayout layout project).run host s).calls)[k]? =
      some (step.reply host (stateBefore host s (ofLayout layout project).steps k)) := by
  have hk := (List.getElem?_eq_some_iff.1 hstep).1
  rw [(reports_of_finished h).1, ← List.take_length (l := (ofLayout layout project).steps),
    replies_take host s hk hstep, List.take_length]

/-- A step other than those of the dataset and the view comes to no end but a success. -/
theorem isFatal_of_ne {k : Nat} {step : Step} (hstep : (ofLayout layout project).steps[k]? = some step)
    (hdataset : k ≠ 2) (hview : k ≠ layout.tables.length + 3) : step.onFailure.IsFatal := by
  rcases step_cases hstep with ⟨-, rfl⟩ | ⟨-, rfl⟩ | ⟨hk, -⟩ | ⟨i, table, -, -, rfl⟩ | ⟨hk, -⟩
  · exact trivial
  · exact trivial
  · exact absurd hk hdataset
  · exact trivial
  · exact absurd hk hview

/-- The view alone goes on with a cleanup. -/
theorem not_goesOnWithCleanup {k : Nat} {step : Step}
    (hstep : (ofLayout layout project).steps[k]? = some step) (hview : k ≠ layout.tables.length + 3) :
    ¬ step.GoesOnWithCleanup := by
  rintro ⟨cleanup, hf⟩
  by_cases hdataset : k = 2
  · subst hdataset
    cases hstep
    cases hf
  · have hfatal := isFatal_of_ne hstep hdataset hview
    rw [hf] at hfatal
    exact hfatal

/-- What comes of the command of the view, once those before it were started. -/
def viewReply (layout : Layout) (project : ProjectId) (host : Host σ) (s : σ) : Reply :=
  (viewStep layout project).reply host
    (stateBefore host s (ofLayout layout project).steps (layout.tables.length + 3))

/-- A run that comes to its end leaves the cleanup of the view to do, if its command ended badly. -/
theorem pendingCleanups_of_finished {report : Report}
    (h : ((ofLayout layout project).run host s).result = .ok report) :
    ∃ status, viewReply layout project host s = .ok status ∧
      report.steps[layout.tables.length + 3]? = some ⟨(viewStep layout project).label,
        (viewStep layout project).command.line,
        if status.isSuccess then .succeeded
        else .failed status (removal project layout.dataset layout.view.name).line⟩ ∧
      report.pendingCleanups = if status.isSuccess then [] else
        [((viewStep layout project).label, (removal project layout.dataset layout.view.name).line)] := by
  obtain ⟨-, hlength, hall⟩ := reports_of_finished h
  obtain ⟨entry, hentry, status, outcome, hr, hends, rfl⟩ := hall _ _ steps_getElem?_view
  rw [hends.of_continueAndRemove rfl] at hentry
  refine ⟨status, hr, hentry, ?_⟩
  rw [Report.pendingCleanups_of_last hlength hentry]
  · cases hsuccess : status.isSuccess <;> rfl
  · intro k entry hk hentry
    have hstep : (ofLayout layout project).steps[k]? = some _ :=
      List.getElem?_eq_getElem (by rw [steps_length]; omega)
    obtain ⟨entry', hentry', hreports⟩ := hall k _ hstep
    cases hentry.symm.trans hentry'
    exact hreports.no_cleanup (not_goesOnWithCleanup hstep (by omega))

/-- A run that comes to its end has handed over four commands and one for each table, which do in order what
the plan is for. All of them succeeded but for the dataset, which may have been there already, and the view;
and only the cleanup of a view that failed is left to do. -/
theorem run_finished {report : Report}
    (h : ((ofLayout layout project).run host s).result = .ok report) :
    let steps := (ofLayout layout project).steps
    let calls := ((ofLayout layout project).run host s).calls
    let replies := host.replies s calls
    let dataset := datasetStep layout project
    let view := viewStep layout project
    let cleanup := (removal project layout.dataset layout.view.name).line
    calls.length = layout.tables.length + 4 ∧ calls = steps.map Step.command ∧
    calls.map Command.purpose = purposes layout project ∧
    report.steps.length = layout.tables.length + 4 ∧
    (∀ (k : Nat) (step : Step), steps[k]? = some step → k ≠ 2 → k ≠ layout.tables.length + 3 →
      replies[k]? = some (.ok ⟨some 0⟩) ∧
      report.steps[k]? = some ⟨step.label, step.command.line, .succeeded⟩) ∧
    (∃ status, replies[2]? = some (.ok status) ∧
      report.steps[2]? = some ⟨dataset.label, dataset.command.line,
        if status.isSuccess then .succeeded else .assumedExisting status⟩) ∧
    ∃ status, replies[layout.tables.length + 3]? = some (.ok status) ∧
      report.steps[layout.tables.length + 3]? = some ⟨view.label, view.command.line,
        if status.isSuccess then .succeeded else .failed status cleanup⟩ ∧
      report.pendingCleanups = if status.isSuccess then [] else [(view.label, cleanup)] := by
  intro steps calls replies dataset view cleanup
  obtain ⟨hhanded, hlength, hall⟩ := reports_of_finished h
  have hcalls : calls = steps.map Step.command := hhanded
  have hreply : ∀ {k : Nat} {step : Step}, steps[k]? = some step →
      replies[k]? = some (step.reply host (stateBefore host s steps k)) := replies_of_finished h
  have hothers : ∀ (k : Nat) (step : Step), steps[k]? = some step → k ≠ 2 →
      k ≠ layout.tables.length + 3 → replies[k]? = some (.ok ⟨some 0⟩) ∧
      report.steps[k]? = some ⟨step.label, step.command.line, .succeeded⟩ := by
    intro k step hstep hdataset hview
    have hfatal := isFatal_of_ne hstep hdataset hview
    obtain ⟨entry, hentry, status, outcome, hr, hends, rfl⟩ := hall k step hstep
    have hcode : status.code = some 0 := by
      by_contra hc
      exact hends.not_fatal hc hfatal
    rw [hends.of_isFatal hfatal] at hentry
    exact ⟨by rw [hreply hstep, hr, ← hcode], hentry⟩
  obtain ⟨entry, hdataset, made, outcome, hmade, hmakes, rfl⟩ := hall 2 dataset rfl
  rw [hmakes.of_assumeExists rfl] at hdataset
  obtain ⟨shown, hshown, hview, hpending⟩ := pendingCleanups_of_finished h
  refine ⟨?_, hcalls, ?_, hlength, hothers, ⟨made, ?_, hdataset⟩, shown, ?_, hview, hpending⟩
  · rw [hcalls, List.length_map]
    exact steps_length layout project
  · rw [hcalls, List.map_map]
    exact purposes_eq_map layout project
  · rw [hreply rfl, hmade]
  · rw [hreply steps_getElem?_view]
    exact congrArg some hshown

/-- The dataset is there already, and a signal ends the command of the view. -/
theorem run_finished_tolerated :
    let project : ProjectId := ⟨"swarm-dev", by decide⟩
    let replies : List Reply :=
      [.ok ⟨some 0⟩, .ok ⟨some 0⟩, .ok ⟨some 2⟩, .ok ⟨some 0⟩, .ok ⟨some 0⟩, .ok ⟨some 0⟩, .ok ⟨none⟩]
    let run := (ofLayout Layout.standard project).run (Host.scripted fun _ => true) replies
    ∃ report, run.result = .ok report ∧ run.calls.map Command.purpose = purposes Layout.standard project ∧
      report.steps[2]? = some ⟨"Create the dataset", (datasetStep Layout.standard project).command.line,
        .assumedExisting ⟨some 2⟩⟩ ∧
      report.pendingCleanups = [("Create the bot_events_delta view",
        (removal project "swarming" "bot_events_delta").line)] := by
  intro project replies run
  obtain ⟨report, hresult⟩ : ∃ report, run.result = .ok report := ⟨_, rfl⟩
  obtain ⟨-, -, hpurposes, -, -, ⟨made, hmade, hdataset⟩, shown, hshown, -, hpending⟩ :=
    run_finished hresult
  cases hmade
  cases hshown
  exact ⟨report, hresult, hpurposes, hdataset, hpending⟩

end Plan

end Provisioning
