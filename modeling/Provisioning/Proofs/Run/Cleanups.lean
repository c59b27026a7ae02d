import Provisioning.Proofs.Plan.Steps
import Provisioning.Proofs.Run.Stopping

/-! # What is left to clean up

A run that fails leaves no report behind, so a cleanup that only the report tells of would be lost. None
is, since the one step that goes on with a cleanup comes last: every cleanup that a bad ending calls for
comes to the eyes of whoever started the run, and nothing else does. -/
namespace Provisioning

/-- The cleanups that whoever started a run gets to see. -/
def surfacedCleanups : Except Failure Report → List String
  | .error failure => failure.cleanup?.toList
  | .ok report => report.pendingCleanups.map Prod.snd

/-- A command was started and ended with anything but the code zero. -/
def Reply.endedBadly : Reply → Bool
  | .ok status => !status.isSuccess
  | .error _ => false

/-- The cleanup that the reply to a command calls for. -/
def owedCleanup? (cleanup : Option Command) (reply : Reply) : Option String :=
  if Reply.endedBadly reply then cleanup.map Command.line else none

/-- The cleanups that the replies to commands call for, in order. -/
def owedCleanups (cleanups : List (Option Command)) (replies : List Reply) : List String :=
  (cleanups.zip replies).filterMap fun (cleanup, reply) => owedCleanup? cleanup reply

/-- The step leaves a cleanup in the report of a run that goes on. -/
def Step.GoesOnWithCleanup (step : Step) : Prop :=
  ∃ cleanup, step.onFailure = .continueAndRemove cleanup

variable {σ : Type}

namespace Step

theorem endedBadly_of_code {reply : Reply} {status : ExitStatus} (hr : reply = .ok status)
    (hc : status.code ≠ some 0) : Reply.endedBadly reply = true := by
  simp [hr, Reply.endedBadly, mt (status.isSuccess_iff).1 hc]

/-- A failure shows the cleanup that its step owes. -/
theorem StopsWith.cleanup {host : Host σ} {s : σ} {step : Step} {failure : Failure}
    (h : step.StopsWith host s failure) (more : List (Option Command)) :
    failure.cleanup?.toList = owedCleanups (step.onFailure.cleanup? :: more)
      (host.replies s (step.run host s).calls) := by
  cases h with
  | directory hd hno =>
    rw [run_calls_of_lacks ⟨_, hd, hno⟩]
    rfl
  | start hdir hr =>
    have hreply : (host.start s step.command).reply = _ := hr
    rw [run_calls_of_not_lacks hdir]
    simp [owedCleanups, owedCleanup?, hreply, Reply.endedBadly, Failure.cleanup?]
  | ending hdir hr hc hf =>
    rw [run_calls_of_not_lacks hdir]
    simp [owedCleanups, owedCleanup?, hf, OnFailure.cleanup?, Failure.cleanup?]
  | table hdir hr hc hf =>
    have hbad : Reply.endedBadly (host.start s step.command).reply = true :=
      endedBadly_of_code hr hc
    rw [run_calls_of_not_lacks hdir]
    simp [owedCleanups, owedCleanup?, hbad, hf, OnFailure.cleanup?, Failure.cleanup?]

/-- The entry of a step that goes on shows the cleanup that the step owes. -/
theorem Reports.cleanup {host : Host σ} {s : σ} {step : Step} {report : StepReport}
    (h : step.Reports host s report) :
    report.pendingCleanup?.map Prod.snd =
      owedCleanup? step.onFailure.cleanup? (step.reply host s) := by
  obtain ⟨status, outcome, hr, hends, rfl⟩ := h
  cases hends with
  | succeeded hc =>
    simp [StepReport.pendingCleanup?, owedCleanup?, hr, Reply.endedBadly,
      (status.isSuccess_iff).2 hc]
  | assumedExisting hc hf =>
    simp [StepReport.pendingCleanup?, owedCleanup?, hf, OnFailure.cleanup?]
  | failed hc hf =>
    simp [StepReport.pendingCleanup?, owedCleanup?, hf, OnFailure.cleanup?,
      endedBadly_of_code hr hc]

theorem Reports.no_cleanup {host : Host σ} {s : σ} {step : Step} {report : StepReport}
    (h : step.Reports host s report) (hstep : ¬ step.GoesOnWithCleanup) :
    report.pendingCleanup? = none := by
  obtain ⟨status, outcome, -, hends, rfl⟩ := h
  cases hends with
  | succeeded => rfl
  | assumedExisting => rfl
  | failed _ hf => exact absurd ⟨_, hf⟩ hstep

end Step

theorem owedCleanups_cons (cleanup : Option Command) (cleanups : List (Option Command))
    (reply : Reply) (replies : List Reply) :
    owedCleanups (cleanup :: cleanups) (reply :: replies) =
      (owedCleanup? cleanup reply).toList ++ owedCleanups cleanups replies := by
  cases h : owedCleanup? cleanup reply <;> simp [owedCleanups, h]

theorem surfacedCleanups_cons {report : StepReport} (h : report.pendingCleanup? = none)
    (result : Except Failure (List StepReport)) :
    surfacedCleanups ((result.map (report :: ·)).map Report.mk) =
      surfacedCleanups (result.map Report.mk) := by
  cases result with
  | error failure => rfl
  | ok reports => simp [Except.map, surfacedCleanups, Report.pendingCleanups, h]

/-- What a run owes and shows, if it stops at its first step. -/
theorem surfacedCleanups_of_stops {host : Host σ} {s : σ} {step : Step} (rest : List Step)
    (h : step.Stops host s) :
    surfacedCleanups ((runSteps host (step :: rest) s).result.map Report.mk) =
        owedCleanups ((step :: rest).map (·.onFailure.cleanup?))
          (host.replies s (runSteps host (step :: rest) s).calls) ∧
      (surfacedCleanups ((runSteps host (step :: rest) s).result.map Report.mk)).length ≤ 1 := by
  obtain ⟨failure, hwith, hresult⟩ := Step.run_of_stops h
  have hshown : surfacedCleanups ((runSteps host (step :: rest) s).result.map Report.mk) =
      failure.cleanup?.toList := by
    rw [runSteps_of_error rest hresult]
    rfl
  rw [hshown]
  refine ⟨?_, by cases failure.cleanup? <;> simp⟩
  rw [runSteps_of_error rest hresult, List.map_cons]
  exact hwith.cleanup _

/-- If only the last step goes on with a cleanup, the cleanups that are owed are those that surface, and
there is one at most. -/
theorem surfacedCleanups_runSteps (host : Host σ) (s : σ) (steps : List Step) (last : Step)
    (h : ∀ step ∈ steps, ¬ step.GoesOnWithCleanup) :
    surfacedCleanups ((runSteps host (steps ++ [last]) s).result.map Report.mk) =
        owedCleanups ((steps ++ [last]).map (·.onFailure.cleanup?))
          (host.replies s (runSteps host (steps ++ [last]) s).calls) ∧
      (surfacedCleanups ((runSteps host (steps ++ [last]) s).result.map Report.mk)).length ≤ 1 := by
  induction steps generalizing s with
  | nil =>
    by_cases hstops : last.Stops host s
    · exact surfacedCleanups_of_stops [] hstops
    · obtain ⟨report, hreport, hresult, hcalls⟩ := runSteps_of_not_stops [] hstops
      have hshown : surfacedCleanups ((runSteps host [last] s).result.map Report.mk) =
          (report.pendingCleanup?.map Prod.snd).toList := by
        rw [hresult]
        cases hp : report.pendingCleanup? <;>
          simp [runSteps, Except.map, surfacedCleanups, Report.pendingCleanups, hp]
      rw [List.nil_append, hshown, hcalls]
      refine ⟨?_, by cases report.pendingCleanup? <;> simp⟩
      rw [hreport.cleanup, List.map_singleton, Host.replies_cons, owedCleanups_cons]
      exact (List.append_nil _).symm
  | cons step steps ih =>
    by_cases hstops : step.Stops host s
    · exact surfacedCleanups_of_stops (steps ++ [last]) hstops
    · obtain ⟨report, hreport, hresult, hcalls⟩ := runSteps_of_not_stops (steps ++ [last]) hstops
      have hnone := hreport.no_cleanup (h step List.mem_cons_self)
      have howed : owedCleanup? step.onFailure.cleanup? (host.start s step.command).reply = none := by
        have hcleanup := hreport.cleanup
        rw [hnone] at hcleanup
        exact hcleanup.symm
      rw [List.cons_append, hresult, hcalls, surfacedCleanups_cons hnone, List.map_cons,
        Host.replies_cons, owedCleanups_cons, howed]
      exact ih _ fun step' hstep' => h step' (List.mem_cons_of_mem step hstep')

/-! ## Plans for layouts -/

variable (layout : Layout) (project : ProjectId)

theorem Plan.onFailure_of_mem_tableSteps {step : Step} (h : step ∈ tableSteps layout project) :
    ∃ table ∈ layout.tables,
      step.onFailure = .stopAndRemove (removal project layout.dataset table.name) := by
  obtain ⟨i, hi⟩ := List.mem_iff_getElem?.1 h
  rw [tableSteps_getElem?] at hi
  obtain ⟨table, htable, rfl⟩ := Option.map_eq_some_iff.1 hi
  exact ⟨table, List.mem_of_getElem? htable, rfl⟩

/-- A table that fails does so behind three steps and the tables before it, all of which succeeded. -/
theorem Plan.run_of_tableFailed {layout : Layout} {project : ProjectId} {host : Host σ} {s : σ}
    {label : String} {status : ExitStatus} {cleanup : String}
    (h : (runSteps host (ofLayout layout project).steps s).result =
      .error (.tableFailed label status cleanup)) :
    ∃ i table, layout.tables[i]? = some table ∧
      cleanup = (removal project layout.dataset table.name).line ∧
      (runSteps host (ofLayout layout project).steps s).calls =
        ((ofLayout layout project).steps.take (i + 4)).map Step.command ∧
      (host.replies s (runSteps host (ofLayout layout project).steps s).calls)[i + 3]? =
        some (.ok status) ∧
      ∀ j < i, (host.replies s (runSteps host (ofLayout layout project).steps s).calls)[j + 3]? =
        some (.ok ⟨some 0⟩) := by
  obtain ⟨k, step, hfirst, hstep, hwith, hcalls⟩ := runSteps_of_fails h
  cases hwith with
  | @table _ cleanup hdir hr hc hf =>
    obtain ⟨i, table, rfl, htable, rfl, rfl⟩ := table_of_stopAndRemove hstep hf
    have hhanded : (runSteps host (ofLayout layout project).steps s).calls =
        ((ofLayout layout project).steps.take (i + 4)).map Step.command := by
      rw [hcalls, Step.run_calls_of_not_lacks hdir, commands_take_succ hstep]
    refine ⟨i, table, htable, rfl, hhanded, ?_, ?_⟩
    · rw [hhanded, replies_take host s (by omega) hstep, hr]
    · intro j hj
      obtain ⟨earlier, hearlier⟩ : ∃ earlier, layout.tables[j]? = some earlier :=
        ⟨_, List.getElem?_eq_getElem (by
          have := (List.getElem?_eq_some_iff.1 htable).1
          omega)⟩
      have hbefore : (ofLayout layout project).steps[j + 3]? =
          some (tableStepAt layout project j earlier) := steps_getElem?_table hearlier
      have hgoes : ¬ (tableStepAt layout project j earlier).Stops host
          (stateBefore host s (ofLayout layout project).steps (j + 3)) := fun hstops =>
        hfirst.2 (j + 3) (by omega) ⟨_, hbefore, hstops⟩
      rw [hhanded, replies_take host s (by omega) hbefore, Step.reply_of_not_stops hgoes trivial]

/-- The commands of a run are the first of its plan, so each reply belongs to the step at its place. The
cleanups that surface are those of the tables and the view whose command was started and ended badly, and
there is one at most. A table that fails is the last whose command was started, and the tables before it
succeeded. -/
theorem Plan.surfaced_eq_owed (layout : Layout) (project : ProjectId) (host : Host σ) (s : σ) :
    ((ofLayout layout project).run host s).calls <+:
        (ofLayout layout project).steps.map Step.command ∧
      surfacedCleanups ((ofLayout layout project).run host s).result =
        owedCleanups (cleanups layout project)
          (host.replies s ((ofLayout layout project).run host s).calls) ∧
      (surfacedCleanups ((ofLayout layout project).run host s).result).length ≤ 1 ∧
      ∀ label status cleanup, ((ofLayout layout project).run host s).result =
          .error (.tableFailed label status cleanup) →
        ∃ i table, layout.tables[i]? = some table ∧
          cleanup = (removal project layout.dataset table.name).line ∧
          ((ofLayout layout project).run host s).calls =
            ((ofLayout layout project).steps.take (i + 4)).map Step.command ∧
          (host.replies s ((ofLayout layout project).run host s).calls)[i + 3]? =
            some (.ok status) ∧
          ∀ j < i, (host.replies s ((ofLayout layout project).run host s).calls)[j + 3]? =
            some (.ok ⟨some 0⟩) := by
  have hsteps : ∀ step ∈ [enableStep project, grantStep project, datasetStep layout project] ++
      tableSteps layout project, ¬ step.GoesOnWithCleanup := by
    rintro step hstep ⟨cleanup, hf⟩
    rcases List.mem_append.1 hstep with hfirst | htable
    · simp only [List.mem_cons, List.not_mem_nil, or_false] at hfirst
      rcases hfirst with rfl | rfl | rfl <;> cases hf
    · obtain ⟨table, -, hstop⟩ := onFailure_of_mem_tableSteps layout project htable
      cases hstop.symm.trans hf
  obtain ⟨howed, hone⟩ :=
    surfacedCleanups_runSteps host s _ (viewStep layout project) hsteps
  refine ⟨runSteps_calls_isPrefix host s _, ?_, hone, ?_⟩
  · rw [← cleanups_eq_map]
    exact howed
  · intro label status cleanup h
    have hfails : (runSteps host (ofLayout layout project).steps s).result =
        .error (.tableFailed label status cleanup) := by
      cases hr : (runSteps host (ofLayout layout project).steps s).result with
      | error failure => simpa [run, hr, Except.map] using h
      | ok reports => simp [run, hr, Except.map] at h
    exact run_of_tableFailed hfails

/-- A tolerated failure of the dataset and a table that a signal ends: one cleanup surfaces, and it is owed. -/
theorem Plan.surfaced_eq_owed_second_table :
    let project : ProjectId := ⟨"google.com:swarm-dev", by decide⟩
    let host := Host.scripted fun _ => true
    let replies : List Reply :=
      [.ok ⟨some 0⟩, .ok ⟨some 0⟩, .ok ⟨some 2⟩, .ok ⟨some 0⟩, .ok ⟨none⟩]
    let run := (ofLayout Layout.standard project).run host replies
    run.result = .error (.tableFailed "Populate the BigQuery schema of task_requests" ⟨none⟩
        (removal project "swarming" "task_requests").line) ∧
      owedCleanups (cleanups Layout.standard project) (host.replies replies run.calls) =
        [(removal project "swarming" "task_requests").line] ∧
      ∃ i table, Layout.standard.tables[i]? = some table ∧
        run.calls = ((ofLayout Layout.standard project).steps.take (i + 4)).map Step.command := by
  intro project host replies run
  have hresult : run.result = .error (.tableFailed "Populate the BigQuery schema of task_requests"
      ⟨none⟩ (removal project "swarming" "task_requests").line) := rfl
  obtain ⟨-, howed, -, htable⟩ := surfaced_eq_owed Layout.standard project host replies
  obtain ⟨i, table, hi, -, hcalls, -⟩ := htable _ _ _ hresult
  refine ⟨hresult, ?_, i, table, hi, hcalls⟩
  rw [← howed]
  change surfacedCleanups run.result = _
  rw [hresult]
  rfl

end Provisioning
