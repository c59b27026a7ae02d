import Provisioning.Proofs.Plan.Steps
import Provisioning.Proofs.Run.Stopping

/-! # Runs that come to their end

What the plan for a layout needs of a machine. Every command has to be started, the schema tool in its
directory, and all but those of `bq` have to succeed: the dataset may exist already, and without the view
the tables still work. -/
namespace Provisioning

variable {σ : Type}

theorem Step.not_stops_iff (host : Host σ) (s : σ) (step : Step) :
    ¬ step.Stops host s ↔
      (∀ d, step.command.directory = some d → host.isDirectory s d = true) ∧
      ∃ status, step.reply host s = .ok status ∧
        (step.onFailure.IsFatal → status.code = some 0) := by
  constructor
  · intro h
    refine ⟨?_, ?_⟩
    · intro d hd
      by_contra hno
      exact h (.inl ⟨d, hd, by simpa using hno⟩)
    · cases hr : step.reply host s with
      | error cause => exact absurd (.inr (.inl ⟨cause, hr⟩)) h
      | ok status =>
        refine ⟨status, rfl, fun hfatal => ?_⟩
        by_contra hc
        exact h (.inr (.inr ⟨status, hr, hc, hfatal⟩))
  · rintro ⟨hdir, status, hr, hgood⟩ (⟨d, hd, hno⟩ | ⟨cause, hcause⟩ | ⟨status', hr', hc, hfatal⟩)
    · rw [hdir d hd] at hno
      cases hno
    · cases hr.symm.trans hcause
    · cases hr.symm.trans hr'
      exact hc (hgood hfatal)

/-- A step calls for the interface or a right, or makes the dataset or the view, or makes a table in the
schema directory; only the second kind may end badly. -/
theorem Plan.step_kinds {layout : Layout} {project : ProjectId} {k : Nat} {step : Step}
    (h : (ofLayout layout project).steps[k]? = some step) :
    (step.command.program = "gcloud" ∧ step.command.directory = none ∧ step.onFailure.IsFatal) ∨
    (step.command.program = "bq" ∧ step.command.directory = none ∧ ¬ step.onFailure.IsFatal) ∨
    (step.command.program = "bqschemaupdater" ∧
      step.command.directory = some layout.schemaDirectory ∧ step.onFailure.IsFatal) := by
  rcases step_cases h with ⟨-, rfl⟩ | ⟨-, rfl⟩ | ⟨-, rfl⟩ | ⟨i, table, -, -, rfl⟩ | ⟨-, rfl⟩
  · exact .inl ⟨rfl, rfl, trivial⟩
  · exact .inl ⟨rfl, rfl, trivial⟩
  · exact .inr (.inl ⟨rfl, rfl, id⟩)
  · exact .inr (.inr ⟨rfl, rfl, trivial⟩)
  · exact .inr (.inl ⟨rfl, rfl, id⟩)

/-- The schema tool runs in the schema directory, and nothing else has a directory of its own. -/
theorem Plan.directory_of_mem_steps {layout : Layout} {project : ProjectId} {step : Step}
    (h : step ∈ (ofLayout layout project).steps) :
    step.command.directory =
      if step.command.program = "bqschemaupdater" then some layout.schemaDirectory else none := by
  obtain ⟨k, hk⟩ := List.mem_iff_getElem?.1 h
  rcases step_kinds hk with ⟨hp, hd, -⟩ | ⟨hp, hd, -⟩ | ⟨hp, hd, -⟩ <;> rw [hp, hd] <;> rfl

theorem Plan.eq_schemaDirectory_of_mem_steps {layout : Layout} {project : ProjectId} {step : Step}
    (h : step ∈ (ofLayout layout project).steps) {d : Path} (hd : step.command.directory = some d) :
    d = layout.schemaDirectory := by
  rw [directory_of_mem_steps h] at hd
  split at hd
  · exact (Option.some.inj hd).symm
  · cases hd

/-- Started one after another, the commands of the plan for a layout bring it to its end: the schema
directory is there whenever a table is made, each command starts, and those of `gcloud` and
`bqschemaupdater` succeed. -/
def Host.Completes (host : Host σ) (s : σ) (layout : Layout) (project : ProjectId) : Prop :=
  ∀ (k : Nat) (step : Step), (Plan.ofLayout layout project).steps[k]? = some step →
    let before := stateBefore host s (Plan.ofLayout layout project).steps k
    (step.command.program = "bqschemaupdater" →
      host.isDirectory before layout.schemaDirectory = true) ∧
    ∃ status, (host.start before step.command).reply = .ok status ∧
      (step.command.program = "gcloud" ∨ step.command.program = "bqschemaupdater" →
        status.code = some 0)

theorem Plan.run_ofLayout_eq_ok_iff (layout : Layout) (project : ProjectId) (host : Host σ) (s : σ) :
    (∃ report, ((ofLayout layout project).run host s).result = .ok report) ↔
      host.Completes s layout project := by
  rw [Plan.run_eq_ok_iff]
  have hgoes : (∀ k, ¬ StopsAt host s (ofLayout layout project).steps k) ↔
      ∀ (k : Nat) (step : Step), (ofLayout layout project).steps[k]? = some step →
        ¬ step.Stops host (stateBefore host s (ofLayout layout project).steps k) := by
    simp [StopsAt]
  rw [hgoes]
  refine forall_congr' fun k => forall_congr' fun step => forall_congr' fun hstep => ?_
  rw [Step.not_stops_iff]
  rcases step_kinds hstep with ⟨hp, hd, hf⟩ | ⟨hp, hd, hf⟩ | ⟨hp, hd, hf⟩ <;>
    simp [hp, hd, hf, Step.reply]

/-! ## Runs that fail -/

theorem Step.StopsWith.result {host : Host σ} {s : σ} {step : Step} {failure : Failure}
    (h : step.StopsWith host s failure) : (step.run host s).result = .error failure := by
  cases h with
  | directory hd hno => simp [run, (step.missingDirectory?_eq_some_iff host s _).2 ⟨hd, hno⟩]
  | start hdir hr =>
    have hreply : (host.start s step.command).reply = _ := hr
    simp [run, (step.missingDirectory?_eq_none_iff host s).2 hdir, hreply]
  | @ending status hdir hr hc hf =>
    have hreply : (host.start s step.command).reply = _ := hr
    simp [run, (step.missingDirectory?_eq_none_iff host s).2 hdir, hreply, verdict, hf,
      mt status.isSuccess_iff.1 hc, Except.map]
  | @table status cleanup hdir hr hc hf =>
    have hreply : (host.start s step.command).reply = _ := hr
    simp [run, (step.missingDirectory?_eq_none_iff host s).2 hdir, hreply, verdict, hf,
      mt status.isSuccess_iff.1 hc, Except.map]

/-- The first step of the plan for a layout that stops a run stands at a position, and the run fails
there. -/
structure Host.FailsAt (host : Host σ) (s : σ) (layout : Layout) (project : ProjectId) (k : Nat)
    (step : Step) (failure : Failure) : Prop where
  first : IsFirstStop host s (Plan.ofLayout layout project).steps k
  position : (Plan.ofLayout layout project).steps[k]? = some step
  stops : step.StopsWith host (stateBefore host s (Plan.ofLayout layout project).steps k) failure

theorem Plan.run_ofLayout_eq_error_iff {layout : Layout} {project : ProjectId} {host : Host σ} {s : σ}
    {failure : Failure} :
    ((ofLayout layout project).run host s).result = .error failure ↔
      ∃ k step, host.FailsAt s layout project k step failure := by
  have hresult : ((ofLayout layout project).run host s).result =
      (runSteps host (ofLayout layout project).steps s).result.map Report.mk := rfl
  constructor
  · intro h
    cases hr : (runSteps host (ofLayout layout project).steps s).result with
    | ok reports =>
      rw [hresult, hr] at h
      cases h
    | error failure' =>
      rw [hresult, hr] at h
      cases h
      obtain ⟨k, step, hfirst, hstep, hwith, -⟩ := runSteps_of_fails hr
      exact ⟨k, step, hfirst, hstep, hwith⟩
  · rintro ⟨k, step, h⟩
    obtain ⟨step', failure', hstep, hwith, hfails, -⟩ := runSteps_of_isFirstStop h.first
    cases h.position.symm.trans hstep
    cases h.stops.result.symm.trans hwith.result
    rw [hresult, hfails]
    rfl

/-! ## Machines that only log -/

theorem Host.completes_logged (host : Host σ) (s : σ) (layout : Layout) (project : ProjectId) :
    host.logged.Completes s layout project ↔ host.Completes s layout project := Iff.rfl

theorem Host.after_preview (isDirectory : σ → Path → Bool) (s : σ) (commands : List Command) :
    (Host.preview isDirectory).after s commands = s := by
  induction commands with
  | nil => rfl
  | cons c rest ih => exact ih

/-- A preview needs the schema directory and nothing else. -/
theorem Host.completes_preview (isDirectory : σ → Path → Bool) (s : σ) {layout : Layout}
    (project : ProjectId) (h : layout.tables ≠ []) :
    (Host.preview isDirectory).Completes s layout project ↔
      isDirectory s layout.schemaDirectory = true := by
  constructor
  · intro hall
    obtain ⟨table, rest, htables⟩ := List.exists_cons_of_ne_nil h
    have hstep : (Plan.ofLayout layout project).steps[3]? =
        some (Plan.tableStepAt layout project 0 table) := Plan.steps_getElem?_table (by simp [htables])
    have hdir := (hall 3 _ hstep).1 rfl
    rwa [stateBefore, Host.after_preview] at hdir
  · intro hdir k step _
    refine ⟨fun _ => ?_, _, rfl, fun _ => rfl⟩
    rw [stateBefore, Host.after_preview]
    exact hdir

end Provisioning
