import Mathlib.Data.Nat.Find
import Provisioning.Proofs.Run.History

/-! # Where a run stops

Whether a step stops a run depends on the state in which the run comes to it. The first step that does
decides everything: the commands before it were handed over in order, its own unless its directory is
missing, and none after it; without such a step the run reports on every step of its plan. -/
namespace Provisioning

/-- A bad ending stops the run. -/
def OnFailure.IsFatal : OnFailure → Prop
  | .stop | .stopAndRemove _ => True
  | .assumeExists | .continueAndRemove _ => False

variable {σ : Type}

namespace Step

/-- The step stops a run that comes to it in some state. -/
def Stops (host : Host σ) (s : σ) (step : Step) : Prop :=
  step.LacksDirectory host s ∨ (∃ cause, step.reply host s = .error cause) ∨
    ∃ status, step.reply host s = .ok status ∧ status.code ≠ some 0 ∧ step.onFailure.IsFatal

theorem StopsWith.stops {host : Host σ} {s : σ} {step : Step} {failure : Failure}
    (h : step.StopsWith host s failure) : step.Stops host s := by
  cases h with
  | directory hd hno => exact .inl ⟨_, hd, hno⟩
  | start _ hr => exact .inr (.inl ⟨_, hr⟩)
  | ending _ hr hc hf => exact .inr (.inr ⟨_, hr, hc, by simp [OnFailure.IsFatal, hf]⟩)
  | table _ hr hc hf => exact .inr (.inr ⟨_, hr, hc, by simp [OnFailure.IsFatal, hf]⟩)

theorem EndsAs.not_fatal {step : Step} {status : ExitStatus} {outcome : Outcome}
    (h : step.EndsAs status outcome) (hc : status.code ≠ some 0) : ¬ step.onFailure.IsFatal := by
  cases h with
  | succeeded h => exact absurd h hc
  | assumedExisting _ hf => simp [OnFailure.IsFatal, hf]
  | failed _ hf => simp [OnFailure.IsFatal, hf]

theorem Reports.not_stops {host : Host σ} {s : σ} {step : Step} {report : StepReport}
    (h : step.Reports host s report) (hdir : ¬ step.LacksDirectory host s) :
    ¬ step.Stops host s := by
  obtain ⟨status, outcome, hr, hends, -⟩ := h
  rintro (hlacks | ⟨cause, hcause⟩ | ⟨status', hr', hc, hfatal⟩)
  · exact hdir hlacks
  · cases hr.symm.trans hcause
  · cases hr.symm.trans hr'
    exact hends.not_fatal hc hfatal

theorem run_of_stops {host : Host σ} {s : σ} {step : Step} (h : step.Stops host s) :
    ∃ failure, step.StopsWith host s failure ∧ (step.run host s).result = .error failure := by
  rcases step.run_cases host s with ⟨d, hd, hno, hresult, -⟩ | ⟨hdir, hstop | hreport, -⟩
  · exact ⟨_, .directory hd hno, hresult⟩
  · exact hstop
  · obtain ⟨report, hreport, -⟩ := hreport
    exact absurd h (hreport.not_stops hdir)

theorem run_of_not_stops {host : Host σ} {s : σ} {step : Step} (h : ¬ step.Stops host s) :
    ∃ report, step.Reports host s report ∧ (step.run host s).result = .ok report := by
  rcases step.run_cases host s with ⟨d, hd, hno, -⟩ | ⟨-, hstop | hreport, -⟩
  · exact absurd (.inl ⟨d, hd, hno⟩) h
  · obtain ⟨failure, hstop, -⟩ := hstop
    exact absurd hstop.stops h
  · exact hreport

/-- A step whose bad endings are fatal succeeds where the run goes on. -/
theorem reply_of_not_stops {host : Host σ} {s : σ} {step : Step} (h : ¬ step.Stops host s)
    (hfatal : step.onFailure.IsFatal) : step.reply host s = .ok ⟨some 0⟩ := by
  obtain ⟨report, ⟨status, outcome, hr, hends, -⟩, -⟩ := run_of_not_stops h
  have hc : status.code = some 0 := by
    by_contra hc
    exact hends.not_fatal hc hfatal
  rw [hr, ← hc]

end Step

/-- The state in which a run comes to a step that none before it kept it from. -/
def stateBefore (host : Host σ) (s : σ) (steps : List Step) (k : Nat) : σ :=
  host.after s ((steps.take k).map Step.command)

/-- There is a step at a position, and it stops a run that comes to it. -/
def StopsAt (host : Host σ) (s : σ) (steps : List Step) (k : Nat) : Prop :=
  ∃ step, steps[k]? = some step ∧ step.Stops host (stateBefore host s steps k)

@[simp] theorem stateBefore_zero (host : Host σ) (s : σ) (steps : List Step) :
    stateBefore host s steps 0 = s := rfl

@[simp] theorem stateBefore_succ (host : Host σ) (s : σ) (step : Step) (rest : List Step) (k : Nat) :
    stateBefore host s (step :: rest) (k + 1) =
      stateBefore host (host.start s step.command).next rest k := rfl

@[simp] theorem not_stopsAt_nil (host : Host σ) (s : σ) (k : Nat) : ¬ StopsAt host s [] k := by
  simp [StopsAt]

@[simp] theorem stopsAt_zero (host : Host σ) (s : σ) (step : Step) (rest : List Step) :
    StopsAt host s (step :: rest) 0 ↔ step.Stops host s := by
  simp [StopsAt]

@[simp] theorem stopsAt_succ (host : Host σ) (s : σ) (step : Step) (rest : List Step) (k : Nat) :
    StopsAt host s (step :: rest) (k + 1) ↔
      StopsAt host (host.start s step.command).next rest k := by
  simp [StopsAt]

/-- The first position at which a step stops the run. -/
def IsFirstStop (host : Host σ) (s : σ) (steps : List Step) (k : Nat) : Prop :=
  StopsAt host s steps k ∧ ∀ j < k, ¬ StopsAt host s steps j

/-- Where a step does not stop it, a run goes on from the state that its command leaves. -/
theorem runSteps_of_not_stops {host : Host σ} {s : σ} {step : Step} (rest : List Step)
    (h : ¬ step.Stops host s) :
    ∃ report, step.Reports host s report ∧
      (runSteps host (step :: rest) s).result =
        (runSteps host rest (host.start s step.command).next).result.map (report :: ·) ∧
      (runSteps host (step :: rest) s).calls =
        step.command :: (runSteps host rest (host.start s step.command).next).calls := by
  obtain ⟨report, hreport, hresult⟩ := Step.run_of_not_stops h
  have hcalls := Step.run_calls_of_not_lacks fun hlacks => h (.inl hlacks)
  have hfinal : (step.run host s).final = (host.start s step.command).next := by
    rw [step.run_final, hcalls]
    rfl
  refine ⟨report, hreport, ?_, ?_⟩
  · simp only [runSteps_of_ok rest hresult, hfinal]
  · simp only [runSteps_of_ok rest hresult, hfinal, hcalls, List.cons_append, List.nil_append]

/-- A run hands over the commands before its first stop, and that of the stop itself unless its directory
is missing. -/
theorem runSteps_of_isFirstStop {host : Host σ} {s : σ} {steps : List Step} {k : Nat}
    (h : IsFirstStop host s steps k) :
    ∃ step failure, steps[k]? = some step ∧
      step.StopsWith host (stateBefore host s steps k) failure ∧
      (runSteps host steps s).result = .error failure ∧
      (runSteps host steps s).calls = (steps.take k).map Step.command ++
        (step.run host (stateBefore host s steps k)).calls := by
  induction steps generalizing s k with
  | nil => exact absurd h.1 (not_stopsAt_nil host s k)
  | cons step rest ih =>
    cases k with
    | zero =>
      obtain ⟨failure, hwith, hresult⟩ := Step.run_of_stops ((stopsAt_zero ..).1 h.1)
      exact ⟨step, failure, rfl, hwith, by rw [runSteps_of_error rest hresult],
        by rw [runSteps_of_error rest hresult]; rfl⟩
    | succ k =>
      have hgoes : ¬ step.Stops host s := fun hs =>
        h.2 0 (Nat.succ_pos k) ((stopsAt_zero ..).2 hs)
      have hrest : IsFirstStop host (host.start s step.command).next rest k :=
        ⟨(stopsAt_succ ..).1 h.1, fun j hj hs =>
          h.2 (j + 1) (Nat.succ_lt_succ hj) ((stopsAt_succ ..).2 hs)⟩
      obtain ⟨report, -, hresult, hcalls⟩ := runSteps_of_not_stops rest hgoes
      obtain ⟨last, failure, hlast, hwith, hfails, hhanded⟩ := ih hrest
      refine ⟨last, failure, hlast, hwith, ?_, ?_⟩
      · rw [hresult, hfails]
        rfl
      · rw [hcalls, hhanded]
        rfl

/-- A run that nothing stops hands over all its commands and reports on every step. -/
theorem runSteps_of_no_stop {host : Host σ} {s : σ} {steps : List Step}
    (h : ∀ k, ¬ StopsAt host s steps k) :
    ∃ reports, (runSteps host steps s).result = .ok reports ∧
      (runSteps host steps s).calls = steps.map Step.command ∧
      reports.length = steps.length ∧
      ∀ (k : Nat) (step : Step), steps[k]? = some step → ∃ report, reports[k]? = some report ∧
        step.Reports host (stateBefore host s steps k) report := by
  induction steps generalizing s with
  | nil => exact ⟨[], rfl, rfl, rfl, fun k step hk => by simp at hk⟩
  | cons step rest ih =>
    obtain ⟨report, hreport, hresult, hcalls⟩ :=
      runSteps_of_not_stops rest (mt (stopsAt_zero ..).2 (h 0))
    obtain ⟨reports, hok, hhanded, hlength, hall⟩ :=
      ih fun k => mt (stopsAt_succ ..).2 (h (k + 1))
    refine ⟨report :: reports, ?_, ?_, ?_, ?_⟩
    · rw [hresult, hok]
      rfl
    · rw [hcalls, hhanded, List.map_cons]
    · rw [List.length_cons, hlength, List.length_cons]
    · intro k step' hk
      cases k with
      | zero =>
        cases hk
        exact ⟨report, rfl, hreport⟩
      | succ k => exact hall k step' hk

/-- A run comes to its end or has a first stop. -/
theorem no_stop_or_isFirstStop (host : Host σ) (s : σ) (steps : List Step) :
    (∀ k, ¬ StopsAt host s steps k) ∨ ∃ k, IsFirstStop host s steps k := by
  classical
  by_cases h : ∃ k, StopsAt host s steps k
  · exact .inr ⟨Nat.find h, Nat.find_spec h, fun j hj => Nat.find_min h hj⟩
  · exact .inl (not_exists.1 h)

theorem runSteps_eq_ok_iff (host : Host σ) (s : σ) (steps : List Step) :
    (∃ reports, (runSteps host steps s).result = .ok reports) ↔
      ∀ k, ¬ StopsAt host s steps k := by
  constructor
  · rintro ⟨reports, hok⟩
    rcases no_stop_or_isFirstStop host s steps with h | ⟨k, hk⟩
    · exact h
    · obtain ⟨_, failure, -, -, hfails, -⟩ := runSteps_of_isFirstStop hk
      cases hok.symm.trans hfails
  · intro h
    obtain ⟨reports, hok, -⟩ := runSteps_of_no_stop h
    exact ⟨reports, hok⟩

/-- A run that fails does so at its first stop. -/
theorem runSteps_of_fails {host : Host σ} {s : σ} {steps : List Step} {failure : Failure}
    (h : (runSteps host steps s).result = .error failure) :
    ∃ k step, IsFirstStop host s steps k ∧ steps[k]? = some step ∧
      step.StopsWith host (stateBefore host s steps k) failure ∧
      (runSteps host steps s).calls = (steps.take k).map Step.command ++
        (step.run host (stateBefore host s steps k)).calls := by
  rcases no_stop_or_isFirstStop host s steps with hno | ⟨k, hk⟩
  · obtain ⟨reports, hok, -⟩ := runSteps_of_no_stop hno
    cases h.symm.trans hok
  · obtain ⟨step, failure', hstep, hwith, hfails, hcalls⟩ := runSteps_of_isFirstStop hk
    cases h.symm.trans hfails
    exact ⟨k, step, hk, hstep, hwith, hcalls⟩

theorem commands_take_succ {steps : List Step} {k : Nat} {step : Step} (h : steps[k]? = some step) :
    (steps.take (k + 1)).map Step.command = (steps.take k).map Step.command ++ [step.command] := by
  rw [List.take_add_one, h, List.map_append]
  rfl

/-- What a run hands over are the first commands of its steps. -/
theorem runSteps_calls_isPrefix (host : Host σ) (s : σ) (steps : List Step) :
    (runSteps host steps s).calls <+: steps.map Step.command := by
  rcases no_stop_or_isFirstStop host s steps with hno | ⟨k, hk⟩
  · obtain ⟨_, -, hcalls, -⟩ := runSteps_of_no_stop hno
    exact hcalls ▸ List.prefix_rfl
  · obtain ⟨step, failure, hstep, -, -, hcalls⟩ := runSteps_of_isFirstStop hk
    rw [hcalls]
    by_cases hlacks : step.LacksDirectory host (stateBefore host s steps k)
    · rw [Step.run_calls_of_lacks hlacks, List.append_nil]
      exact (List.take_prefix k steps).map Step.command
    · rw [Step.run_calls_of_not_lacks hlacks, ← commands_take_succ hstep]
      exact (List.take_prefix (k + 1) steps).map Step.command

/-- A command is handed over where its step lacks no directory, once those before it were. -/
theorem runSteps_calls_getElem? {host : Host σ} {s : σ} {steps : List Step} {k : Nat} {c : Command}
    (h : (runSteps host steps s).calls[k]? = some c) :
    ∃ step ∈ steps, step.command = c ∧
      ¬ step.LacksDirectory host (host.after s ((runSteps host steps s).calls.take k)) := by
  induction steps generalizing s k with
  | nil => cases h
  | cons step rest ih =>
    by_cases hstops : step.Stops host s
    · obtain ⟨failure, -, hfails⟩ := Step.run_of_stops hstops
      rw [runSteps_of_error rest hfails] at h ⊢
      by_cases hlacks : step.LacksDirectory host s
      · rw [Step.run_calls_of_lacks hlacks] at h
        cases h
      · rw [Step.run_calls_of_not_lacks hlacks] at h ⊢
        cases k with
        | zero =>
          cases h
          exact ⟨step, List.mem_cons_self, rfl, hlacks⟩
        | succ k => cases h
    · obtain ⟨-, -, -, hcalls⟩ := runSteps_of_not_stops rest hstops
      rw [hcalls] at h ⊢
      cases k with
      | zero =>
        cases h
        exact ⟨step, List.mem_cons_self, rfl, fun hlacks => hstops (.inl hlacks)⟩
      | succ k =>
        obtain ⟨later, hlater, hc, hdir⟩ := ih h
        exact ⟨later, List.mem_cons_of_mem _ hlater, hc, hdir⟩

/-- Of the commands that a run hands over, only the last may not have been started. -/
theorem started_runSteps_isPrefix (host : Host σ) (s : σ) (steps : List Step) :
    host.started s (runSteps host steps s).calls <+: (runSteps host steps s).calls := by
  induction steps generalizing s with
  | nil => exact List.prefix_rfl
  | cons step rest ih =>
    by_cases hstops : step.Stops host s
    · obtain ⟨failure, -, hfails⟩ := Step.run_of_stops hstops
      rw [runSteps_of_error rest hfails]
      by_cases hlacks : step.LacksDirectory host s
      · rw [Step.run_calls_of_lacks hlacks]
        exact List.prefix_rfl
      · rw [Step.run_calls_of_not_lacks hlacks]
        cases hr : (host.start s step.command).reply with
        | error cause =>
          rw [Host.started_of_error hr]
          exact List.nil_prefix
        | ok status =>
          rw [Host.started_of_ok hr]
          exact List.prefix_rfl
    · obtain ⟨report, ⟨status, _, hr, -⟩, -, hcalls⟩ := runSteps_of_not_stops rest hstops
      rw [hcalls, Host.started_of_ok hr]
      exact (List.prefix_cons_inj step.command).2 (ih _)

/-- The reply to a command that was handed over is the one its step got. -/
theorem replies_take (host : Host σ) (s : σ) {steps : List Step} {k n : Nat} {step : Step}
    (hk : k < n) (h : steps[k]? = some step) :
    (host.replies s ((steps.take n).map Step.command))[k]? =
      some (step.reply host (stateBefore host s steps k)) := by
  have hstep : (steps.take n)[k]? = some step := by
    rw [List.getElem?_take_of_lt hk, h]
  rw [Host.replies_getElem?, List.getElem?_map, hstep, ← List.map_take, List.take_take,
    Nat.min_eq_left (Nat.le_of_lt hk)]
  rfl

theorem Plan.run_eq_ok_iff (plan : Plan) (host : Host σ) (s : σ) :
    (∃ report, (plan.run host s).result = .ok report) ↔ ∀ k, ¬ StopsAt host s plan.steps k := by
  rw [← runSteps_eq_ok_iff]
  constructor
  · rintro ⟨report, hok⟩
    obtain ⟨reports, hreports, -⟩ := map_eq_ok.1 hok
    exact ⟨reports, hreports⟩
  · rintro ⟨reports, hreports⟩
    exact ⟨⟨reports⟩, map_eq_ok.2 ⟨reports, hreports, rfl⟩⟩

/-- A run comes to its end exactly if no step stops it, and then every command was handed over in order
and every step is reported on. Otherwise the first step that stops it gives the failure, and only the
commands before it were handed over, with its own unless its directory is missing. -/
theorem Plan.run_to_first_stop (plan : Plan) (host : Host σ) (s : σ) :
    ((∃ report, (plan.run host s).result = .ok report) ↔
      ∀ k, ¬ StopsAt host s plan.steps k) ∧
    (∀ k, IsFirstStop host s plan.steps k → ∃ step failure,
      plan.steps[k]? = some step ∧ (plan.run host s).result = .error failure ∧
      step.StopsWith host (stateBefore host s plan.steps k) failure ∧
      (step.LacksDirectory host (stateBefore host s plan.steps k) →
        (plan.run host s).calls = (plan.steps.take k).map Step.command) ∧
      (¬ step.LacksDirectory host (stateBefore host s plan.steps k) →
        (plan.run host s).calls = (plan.steps.take (k + 1)).map Step.command)) ∧
    (∀ report, (plan.run host s).result = .ok report →
      (plan.run host s).calls = plan.steps.map Step.command ∧
      report.steps.length = plan.steps.length ∧
      ∀ (k : Nat) (step : Step), plan.steps[k]? = some step → ∃ entry,
        report.steps[k]? = some entry ∧
        step.Reports host (stateBefore host s plan.steps k) entry) ∧
    (plan.run host s).final = host.after s (plan.run host s).calls := by
  have hresult : (plan.run host s).result = (runSteps host plan.steps s).result.map Report.mk := rfl
  have hcalls : (plan.run host s).calls = (runSteps host plan.steps s).calls := rfl
  refine ⟨plan.run_eq_ok_iff host s, ?_, ?_, runSteps_final host plan.steps s⟩
  · intro k hk
    obtain ⟨step, failure, hstep, hwith, hfails, hhanded⟩ := runSteps_of_isFirstStop hk
    refine ⟨step, failure, hstep, by rw [hresult, hfails]; rfl, hwith, ?_, ?_⟩
    · intro hlacks
      rw [hcalls, hhanded, Step.run_calls_of_lacks hlacks, List.append_nil]
    · intro hdir
      rw [hcalls, hhanded, Step.run_calls_of_not_lacks hdir, commands_take_succ hstep]
  · intro report hok
    obtain ⟨reports, hreports, rfl⟩ := map_eq_ok.1 (hresult ▸ hok)
    obtain ⟨reports', hok', hhanded, hlength, hall⟩ :=
      runSteps_of_no_stop ((runSteps_eq_ok_iff host s plan.steps).1 ⟨reports, hreports⟩)
    cases hreports.symm.trans hok'
    exact ⟨hhanded, hlength, hall⟩

/-- The second table fails: the third table and the view are left alone, and the cleanup is the second
table's own. -/
theorem Plan.run_to_second_table :
    let project : ProjectId := ⟨"swarm-dev", by decide⟩
    let plan := Plan.ofLayout Layout.standard project
    let host := Host.scripted fun _ => true
    let replies : List Reply :=
      [.ok ⟨some 0⟩, .ok ⟨some 0⟩, .ok ⟨some 2⟩, .ok ⟨some 0⟩, .ok ⟨none⟩]
    IsFirstStop host replies plan.steps 4 ∧
      (plan.run host replies).calls = (plan.steps.take 5).map Step.command ∧
      (plan.run host replies).result = .error (.tableFailed
        "Populate the BigQuery schema of task_requests" ⟨none⟩
        (Plan.removal project "swarming" "task_requests").line) := by
  intro project plan host replies
  have hdir (s : List Reply) (step : Step) : ¬ step.LacksDirectory host s :=
    fun ⟨_, _, hno⟩ => Bool.noConfusion hno
  have hfirst : IsFirstStop host replies plan.steps 4 := by
    refine ⟨⟨_, rfl, .inr (.inr ⟨⟨none⟩, rfl, by decide, trivial⟩)⟩, ?_⟩
    rintro (_ | _ | _ | _ | j) hj ⟨step, hstep, hstops⟩
    · cases hstep
      exact Step.Reports.not_stops ⟨_, _, rfl, .succeeded rfl, rfl⟩ (hdir _ _) hstops
    · cases hstep
      exact Step.Reports.not_stops ⟨_, _, rfl, .succeeded rfl, rfl⟩ (hdir _ _) hstops
    · cases hstep
      exact Step.Reports.not_stops ⟨_, _, rfl, .assumedExisting (by decide) rfl, rfl⟩
        (hdir _ _) hstops
    · cases hstep
      exact Step.Reports.not_stops ⟨_, _, rfl, .succeeded rfl, rfl⟩ (hdir _ _) hstops
    · omega
  obtain ⟨step, failure, hstep, hresult, hwith, -, hcalls⟩ :=
    (plan.run_to_first_stop host replies).2.1 4 hfirst
  refine ⟨hfirst, hcalls (hdir _ _), ?_⟩
  cases hstep
  cases hwith with
  | directory _ hno => exact Bool.noConfusion hno
  | start _ hr => cases hr
  | ending _ _ _ hf => cases hf
  | table _ hr _ hf =>
    cases hr
    cases hf
    exact hresult

end Provisioning
