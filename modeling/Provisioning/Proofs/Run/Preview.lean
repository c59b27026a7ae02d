import Provisioning.Proofs.Run.Completion

/-! # What a preview tells of a run

A preview and a run of the same steps go hand in hand as long as the commands of the run succeed, if both
find the same directories. A run that a command stops has handed over the first commands of the preview, and
a preview is stopped by nothing but a missing directory, which stops the run as well. -/
namespace Provisioning

/-- The event shows a command that a preview does not run. -/
def Event.isPreview (e : Event) : Bool :=
  "dry run".toList.isPrefixOf e.message.toList

theorem Event.isPreview_of_head {e : Event} (h : e.message.toList.head? ≠ some 'd') :
    e.isPreview = false := by
  rw [← Bool.not_eq_true]
  intro hbegins
  obtain ⟨rest, hrest⟩ := List.isPrefixOf_iff_prefix.1 hbegins
  rw [← hrest] at h
  exact h rfl

theorem Host.isPreview_previewMessage (c : Command) :
    Event.isPreview ⟨.info, .runner, previewMessage c⟩ = true := by
  unfold Event.isPreview previewMessage
  cases c.directory <;> simp

variable {σ τ : Type}

namespace Step

/-- What is logged before the command of a step is started. -/
def preamble (step : Step) : List Event :=
  step.announcement ++ [⟨.debug, .provisioner, "running " ++ step.command.line⟩]

theorem isPreview_of_mem_preamble {step : Step} {e : Event} (h : e ∈ step.preamble) :
    e.isPreview = false := by
  simp only [preamble, announcement, List.cons_append, List.mem_cons, List.mem_append,
    Option.mem_toList, Option.map_eq_some_iff, List.not_mem_nil, or_false] at h
  rcases h with rfl | ⟨note, -, rfl⟩ | rfl <;> exact Event.isPreview_of_head (by simp)

theorem run_of_lacks {host : Host σ} {s : σ} {step : Step} {d : Path}
    (hd : step.command.directory = some d) (hno : host.isDirectory s d = false) :
    step.run host s = ⟨.error (.schemaDirectoryMissing d), step.announcement, [], s⟩ := by
  simp [run, (step.missingDirectory?_eq_some_iff host s d).2 ⟨hd, hno⟩]

theorem run_of_succeeds {host : Host σ} {s : σ} {step : Step}
    (hdir : ¬ step.LacksDirectory host s) (hr : step.reply host s = .ok (ExitStatus.ofCode 0)) :
    step.run host s = ⟨.ok ⟨step.label, step.command.line, .succeeded⟩,
      step.preamble ++ (host.start s step.command).events,
      [step.command], (host.start s step.command).next⟩ := by
  have hreply : (host.start s step.command).reply = .ok (ExitStatus.ofCode 0) := hr
  have hsuccess : (ExitStatus.ofCode 0).isSuccess = true := rfl
  simp [run, (step.missingDirectory?_eq_none_iff host s).2 hdir, hreply, verdict, verdictEvents, hsuccess,
    preamble, Except.map]

end Step

/-- A run that starts in some state finds the directories of its steps where a preview does, whatever its
commands do. -/
def SeesAlike (host : Host σ) (s : σ) (isDirectory : τ → Path → Bool) (t : τ)
    (steps : List Step) : Prop :=
  ∀ step ∈ steps, ∀ d, step.command.directory = some d →
    ∀ commands, host.isDirectory (host.after s commands) d = isDirectory t d

namespace SeesAlike

variable {host : Host σ} {s : σ} {isDirectory : τ → Path → Bool} {t : τ} {step : Step}
  {rest : List Step}

theorem tail (h : SeesAlike host s isDirectory t (step :: rest)) :
    SeesAlike host (host.start s step.command).next isDirectory t rest :=
  fun later hlater d hd commands =>
    h later (List.mem_cons_of_mem step hlater) d hd (step.command :: commands)

theorem lacksDirectory_iff (h : SeesAlike host s isDirectory t (step :: rest)) :
    step.LacksDirectory host s ↔ step.LacksDirectory (Host.preview isDirectory) t :=
  exists_congr fun d => and_congr_right fun hd => by
    rw [← Host.after_nil host s, h step List.mem_cons_self d hd []]
    rfl

end SeesAlike

theorem runSteps_of_succeeds {host : Host σ} {s : σ} {step : Step} (rest : List Step)
    (hdir : ¬ step.LacksDirectory host s) (hr : step.reply host s = .ok (ExitStatus.ofCode 0)) :
    let launch := host.start s step.command
    let later := runSteps host rest launch.next
    runSteps host (step :: rest) s =
      ⟨later.result.map (⟨step.label, step.command.line, .succeeded⟩ :: ·),
        step.preamble ++ launch.events ++ later.events, step.command :: later.calls, later.final⟩ := by
  have hrun := Step.run_of_succeeds hdir hr
  rw [runSteps_of_ok rest (by rw [hrun]), hrun]
  rfl

/-- A preview passes a step whose directory is there and shows its command. -/
theorem runSteps_preview {isDirectory : τ → Path → Bool} {t : τ} {step : Step} (rest : List Step)
    (hdir : ¬ step.LacksDirectory (Host.preview isDirectory) t) :
    let later := runSteps (Host.preview isDirectory) rest t
    runSteps (Host.preview isDirectory) (step :: rest) t =
      ⟨later.result.map (⟨step.label, step.command.line, .succeeded⟩ :: ·),
        step.preamble ++ [⟨.info, .runner, Host.previewMessage step.command⟩] ++ later.events,
        step.command :: later.calls, later.final⟩ :=
  runSteps_of_succeeds rest hdir rfl

theorem runSteps_of_lacks {host : Host σ} {s : σ} {step : Step} {d : Path} (rest : List Step)
    (hd : step.command.directory = some d) (hno : host.isDirectory s d = false) :
    runSteps host (step :: rest) s =
      ⟨.error (.schemaDirectoryMissing d), step.announcement, [], s⟩ := by
  have hrun := Step.run_of_lacks hd hno
  rw [runSteps_of_error rest (by rw [hrun]), hrun]

/-- The lines of a preview that show commands are those of the commands it would hand over, in order. -/
theorem runSteps_preview_shows (isDirectory : τ → Path → Bool) (t : τ) (steps : List Step) :
    (runSteps (Host.preview isDirectory) steps t).events.filter Event.isPreview =
      (runSteps (Host.preview isDirectory) steps t).calls.map fun c =>
        ⟨.info, .runner, Host.previewMessage c⟩ := by
  induction steps with
  | nil => rfl
  | cons step rest ih =>
    by_cases hlacks : step.LacksDirectory (Host.preview isDirectory) t
    · obtain ⟨d, hd, hno⟩ := hlacks
      rw [runSteps_of_lacks rest hd hno]
      refine List.filter_eq_nil_iff.2 fun e he => ?_
      simp [Step.isPreview_of_mem_preamble (List.mem_append_left _ he)]
    · have hquiet : step.preamble.filter Event.isPreview = [] :=
        List.filter_eq_nil_iff.2 fun e he => by simp [Step.isPreview_of_mem_preamble he]
      rw [runSteps_preview rest hlacks]
      simp [hquiet, Host.isPreview_previewMessage, ih]

/-- The commands of a run are the first of a preview. -/
theorem runSteps_calls_isPrefix_preview {host : Host σ} {s : σ} {isDirectory : τ → Path → Bool} {t : τ}
    {steps : List Step} (h : SeesAlike host s isDirectory t steps) :
    (runSteps host steps s).calls <+: (runSteps (Host.preview isDirectory) steps t).calls := by
  induction steps generalizing s with
  | nil => exact List.prefix_rfl
  | cons step rest ih =>
    by_cases hlacks : step.LacksDirectory host s
    · obtain ⟨d, hd, hno⟩ := hlacks
      rw [runSteps_of_lacks rest hd hno]
      exact List.nil_prefix
    · rw [runSteps_preview rest (mt h.lacksDirectory_iff.2 hlacks)]
      by_cases hstops : step.Stops host s
      · obtain ⟨failure, -, hfails⟩ := Step.run_of_stops hstops
        rw [runSteps_of_error rest hfails, Step.run_calls_of_not_lacks hlacks]
        exact List.prefix_append [step.command] _
      · obtain ⟨report, -, -, hcalls⟩ := runSteps_of_not_stops rest hstops
        rw [hcalls]
        exact (List.prefix_cons_inj step.command).2 (ih h.tail)

/-- A step whose directory is there hands its command over first. -/
theorem runSteps_calls_of_not_lacks {host : Host σ} {s : σ} {step : Step} (rest : List Step)
    (h : ¬ step.LacksDirectory host s) :
    ∃ more, (runSteps host (step :: rest) s).calls = step.command :: more := by
  by_cases hstops : step.Stops host s
  · obtain ⟨failure, -, hfails⟩ := Step.run_of_stops hstops
    exact ⟨[], by rw [runSteps_of_error rest hfails, Step.run_calls_of_not_lacks h]⟩
  · obtain ⟨report, -, -, hcalls⟩ := runSteps_of_not_stops rest hstops
    exact ⟨_, hcalls⟩

/-- A run whose commands all succeed ends as a preview does and logs what it logs, but for the commands. -/
theorem runSteps_eq_preview {host : Host σ} {s : σ} {isDirectory : τ → Path → Bool} {t : τ}
    {steps : List Step} (h : SeesAlike host s isDirectory t steps)
    (hall : ∀ reply ∈ host.replies s (runSteps host steps s).calls,
      reply = .ok (ExitStatus.ofCode 0)) :
    (runSteps host steps s).result = (runSteps (Host.preview isDirectory) steps t).result ∧
      (runSteps host steps s).calls = (runSteps (Host.preview isDirectory) steps t).calls ∧
      ((∀ s c, (host.start s c).events = []) →
        (runSteps (Host.preview isDirectory) steps t).events.filter (!·.isPreview) =
          (runSteps host steps s).events) := by
  induction steps generalizing s with
  | nil => exact ⟨rfl, rfl, fun _ => rfl⟩
  | cons step rest ih =>
    have hquiet : step.preamble.filter (!·.isPreview) = step.preamble :=
      List.filter_eq_self.2 fun e he => by simp [Step.isPreview_of_mem_preamble he]
    by_cases hlacks : step.LacksDirectory host s
    · obtain ⟨d, hd, hno⟩ := hlacks
      have hno' : isDirectory t d = false := by
        rw [← h step List.mem_cons_self d hd [], Host.after_nil, hno]
      rw [runSteps_of_lacks rest hd hno, runSteps_of_lacks rest hd hno']
      refine ⟨rfl, rfl, fun _ => List.filter_eq_self.2 fun e he => ?_⟩
      simp [Step.isPreview_of_mem_preamble (List.mem_append_left _ he)]
    · obtain ⟨more, hmore⟩ := runSteps_calls_of_not_lacks rest hlacks
      have hreply : step.reply host s = .ok (ExitStatus.ofCode 0) :=
        hall _ (by rw [hmore, Host.replies_cons]; exact List.mem_cons_self)
      rw [runSteps_of_succeeds rest hlacks hreply] at hall ⊢
      rw [runSteps_preview rest (mt h.lacksDirectory_iff.2 hlacks)]
      obtain ⟨hresult, hcalls, hevents⟩ := ih h.tail fun reply hin =>
        hall reply (List.mem_cons_of_mem _ hin)
      refine ⟨by rw [hresult], by rw [hcalls], fun hsilent => ?_⟩
      simp [hsilent, hquiet, Host.isPreview_previewMessage, ← hevents hsilent]

/-! ## Plans for layouts -/

namespace Plan

variable {layout : Layout} {project : ProjectId}

/-- A preview fails at the first table, for want of the schema directory. -/
theorem preview_of_fails {isDirectory : τ → Path → Bool} {t : τ} {failure : Failure}
    (h : (runSteps (Host.preview isDirectory) (ofLayout layout project).steps t).result =
      .error failure) :
    failure = .schemaDirectoryMissing layout.schemaDirectory ∧
      (runSteps (Host.preview isDirectory) (ofLayout layout project).steps t).calls =
        [enableStep project, grantStep project, datasetStep layout project].map Step.command := by
  obtain ⟨k, step, hfirst, hstep, hwith, hcalls⟩ := runSteps_of_fails h
  cases hwith with
  | @directory d hd hno =>
    obtain rfl := eq_schemaDirectory_of_mem_steps (List.mem_of_getElem? hstep) hd
    obtain ⟨i, table, rfl, htable⟩ : ∃ i table, k = i + 3 ∧ layout.tables[i]? = some table := by
      rcases step_cases hstep with ⟨-, rfl⟩ | ⟨-, rfl⟩ | ⟨-, rfl⟩ | ⟨i, table, hk, htable, -⟩ | ⟨-, rfl⟩
      · cases hd
      · cases hd
      · cases hd
      · exact ⟨i, table, hk, htable⟩
      · cases hd
    -- The first table lacks the directory as well, so no later one is the first to stop.
    obtain rfl : i = 0 := by
      by_contra hi
      obtain ⟨first, hfirst0⟩ : ∃ first, layout.tables[0]? = some first :=
        ⟨_, List.getElem?_eq_getElem (by
          have := (List.getElem?_eq_some_iff.1 htable).1
          omega)⟩
      refine hfirst.2 3 (by omega) ⟨_, steps_getElem?_table hfirst0, .inl ⟨_, rfl, ?_⟩⟩
      rw [stateBefore, Host.after_preview] at hno ⊢
      exact hno
    refine ⟨rfl, ?_⟩
    rw [hcalls, Step.run_calls_of_lacks ⟨_, hd, hno⟩, List.append_nil]
    rfl
  | start _ hr => cases hr
  | ending _ hr hc _ =>
    cases hr
    exact absurd rfl hc
  | table _ hr hc _ =>
    cases hr
    exact absurd rfl hc

/-- A preview shows the line of each command, and of the schema tool also where it runs. -/
theorem previewMessage_of_mem_steps {step : Step} (h : step ∈ (ofLayout layout project).steps) :
    Host.previewMessage step.command =
      (if step.command.program = "bqschemaupdater" then
        "dry run (in " ++ layout.schemaDirectory.display ++ "): "
      else "dry run: ") ++ step.command.line := by
  obtain ⟨k, hk⟩ := List.mem_iff_getElem?.1 h
  rcases step_kinds hk with ⟨hp, hd, -⟩ | ⟨hp, hd, -⟩ | ⟨hp, hd, -⟩ <;>
    simp [Host.previewMessage, hp, hd]

theorem isPreview_opening (plan : Plan) : Event.isPreview
    ⟨.info, .provisioner, "provisioning BigQuery for " ++ plan.project.text⟩ = false :=
  Event.isPreview_of_head (by simp)

theorem preview_shows (isDirectory : τ → Path → Bool) (t : τ) (plan : Plan) :
    ((plan.run (Host.preview isDirectory) t).events.filter Event.isPreview).map Event.message =
      (plan.run (Host.preview isDirectory) t).calls.map Host.previewMessage := by
  have hlines : (plan.run (Host.preview isDirectory) t).events.filter Event.isPreview =
      (plan.run (Host.preview isDirectory) t).calls.map fun c =>
        ⟨.info, .runner, Host.previewMessage c⟩ :=
    (List.filter_cons_of_neg (by simp [isPreview_opening])).trans
      (runSteps_preview_shows isDirectory t plan.steps)
  rw [hlines, List.map_map]
  rfl

/-- A run that comes to its end has handed over the tables and the view too. -/
theorem exists_error_of_few_calls {host : Host σ} {s : σ}
    (hfew : ((ofLayout layout project).run host s).calls <+:
      [enableStep project, grantStep project, datasetStep layout project].map Step.command) :
    ∃ cause, ((ofLayout layout project).run host s).result = .error cause := by
  cases hreal : ((ofLayout layout project).run host s).result with
  | error cause => exact ⟨cause, rfl⟩
  | ok report =>
    obtain ⟨-, -, hhanded, -⟩ :=
      runSteps_of_no_stop (((ofLayout layout project).run_eq_ok_iff host s).1 ⟨report, hreal⟩)
    have hlength := hfew.length_le
    have hall : ((ofLayout layout project).run host s).calls.length = layout.tables.length + 4 := by
      rw [← steps_length layout project, ← List.length_map Step.command, ← hhanded]
      rfl
    simp [hall] at hlength

/-- A preview shows, line by line, the commands that a run starts with. If all of them succeed, the run hands
over all that the preview shows, ends alike and logs the rest of what the preview logs. If the preview
fails, the schema directory is missing, and the run fails before it comes to a table. -/
theorem preview_predicts_run (layout : Layout) (project : ProjectId) (host : Host σ) (s : σ)
    (isDirectory : τ → Path → Bool) (t : τ)
    (hdir : ∀ commands, host.isDirectory (host.after s commands) layout.schemaDirectory =
      isDirectory t layout.schemaDirectory) :
    let plan := ofLayout layout project
    let real := plan.run host s
    let shown := plan.run (Host.preview isDirectory) t
    (real.calls <+: shown.calls ∧
      (shown.events.filter Event.isPreview).map Event.message = shown.calls.map Host.previewMessage ∧
      ∀ step ∈ plan.steps, Host.previewMessage step.command =
        (if step.command.program = "bqschemaupdater" then
          "dry run (in " ++ layout.schemaDirectory.display ++ "): "
        else "dry run: ") ++ step.command.line) ∧
    ((∀ reply ∈ host.replies s real.calls, reply = .ok (ExitStatus.ofCode 0)) →
      real.result = shown.result ∧ real.calls = shown.calls ∧
      ((∀ s c, (host.start s c).events = []) →
        shown.events.filter (!·.isPreview) = real.events)) ∧
    ∀ failure, shown.result = .error failure →
      failure = .schemaDirectoryMissing layout.schemaDirectory ∧
      (∃ cause, real.result = .error cause) ∧
      real.calls <+: [enableStep project, grantStep project, datasetStep layout project].map
        Step.command := by
  intro plan real shown
  have hsees : SeesAlike host s isDirectory t plan.steps := by
    intro step hstep d hd commands
    obtain rfl := eq_schemaDirectory_of_mem_steps hstep hd
    exact hdir commands
  have hbegins : real.calls <+: shown.calls := runSteps_calls_isPrefix_preview hsees
  refine ⟨⟨hbegins, preview_shows isDirectory t plan, fun step => previewMessage_of_mem_steps⟩, ?_, ?_⟩
  · intro hall
    obtain ⟨hresult, hcalls, hevents⟩ := runSteps_eq_preview hsees hall
    refine ⟨congrArg (Except.map Report.mk) hresult, hcalls, fun hsilent => ?_⟩
    exact (List.filter_cons_of_pos (by simp [isPreview_opening])).trans
      (congrArg (List.cons _) (hevents hsilent))
  · intro failure h
    have hfails : (runSteps (Host.preview isDirectory) plan.steps t).result = .error failure := by
      cases hr : (runSteps (Host.preview isDirectory) plan.steps t).result with
      | error cause => simpa [shown, run, hr, Except.map] using h
      | ok reports => simp [shown, run, hr, Except.map] at h
    obtain ⟨hmissing, hcalls⟩ := preview_of_fails hfails
    have hfew : real.calls <+: [enableStep project, grantStep project, datasetStep layout project].map
        Step.command := hcalls ▸ hbegins
    exact ⟨hmissing, exists_error_of_few_calls hfew, hfew⟩

/-- The schema directory is missing, and the dataset exists already. -/
theorem preview_predicts_run_without_directory :
    let plan := ofLayout Layout.standard ⟨"google.com:swarm-dev", by decide⟩
    let host := Host.scripted fun _ => false
    let replies : List Reply := [.ok ⟨some 0⟩, .ok ⟨some 0⟩, .ok ⟨some 2⟩]
    let shown := plan.run (Host.preview fun (_ : Unit) _ => false) ()
    (∀ commands, host.isDirectory (host.after replies commands) Layout.standard.schemaDirectory =
        false) ∧
      shown.result = .error (.schemaDirectoryMissing Layout.standard.schemaDirectory) ∧
      (plan.run host replies).calls <+: shown.calls ∧
      ∃ cause, (plan.run host replies).result = .error cause := by
  intro plan host replies shown
  have hdir : ∀ commands, host.isDirectory (host.after replies commands)
      Layout.standard.schemaDirectory = false := fun _ => rfl
  have hshown : shown.result =
      .error (.schemaDirectoryMissing Layout.standard.schemaDirectory) := rfl
  obtain ⟨⟨hbegins, -⟩, -, hfails⟩ :=
    preview_predicts_run Layout.standard plan.project host replies (fun (_ : Unit) _ => false) () hdir
  exact ⟨hdir, hshown, hbegins, (hfails _ hshown).2.1⟩

end Plan

end Provisioning
