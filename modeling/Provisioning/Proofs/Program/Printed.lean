import Provisioning.Proofs.Program.ExitCode
import Provisioning.Proofs.Program.Notices
import Provisioning.Proofs.Run.Finished
import Provisioning.Proofs.Toml.Lines

/-! # What a call prints

A call that did all it was asked for is silent. Any other has one thing to tell, for one reason: that a tool
is missing or an argument does not fit, that the layout cannot be read, or where its run came to a stop. -/
namespace Provisioning

variable {σ : Type}

theorem Host.FailsAt.exists_table {layout : Layout} {project : ProjectId} {host : Host σ} {s : σ} {k : Nat}
    {step : Step} {label : String} {status : ExitStatus} {cleanup : String}
    (h : host.FailsAt s layout project k step (.tableFailed label status cleanup)) :
    ∃ i table, layout.tables[i]? = some table ∧ k = i + 3 ∧
      step = Plan.tableStepAt layout project i table ∧
      label = "Populate the BigQuery schema of " ++ table.name ∧
      cleanup = (Plan.removal project layout.dataset table.name).line := by
  rcases h with ⟨-, hstep, hstops⟩
  cases hstops with
  | table _ _ _ hf =>
    obtain ⟨i, table, hk, htable, rfl, rfl⟩ := Plan.table_of_stopAndRemove hstep hf
    exact ⟨i, table, htable, hk, rfl, rfl, rfl⟩

theorem ExitStatus.newline_not_mem_display (status : ExitStatus) : '\n' ∉ status.display.toList := by
  have hdigits : ∀ n : Nat, '\n' ∉ n.repr.toList := by
    intro n hmem
    rw [Nat.repr, String.toList_ofList] at hmem
    exact absurd (Nat.isDigit_of_mem_toDigits (by decide) (by decide) hmem) (by decide)
  unfold display
  cases status.code with
  | none => exact not_mem_ofList (by decide)
  | some code =>
    refine not_mem_append.2 ⟨not_mem_ofList (by decide), ?_⟩
    cases code with
    | ofNat n => exact hdigits n
    | negSucc n => exact not_mem_append.2 ⟨not_mem_ofList (by decide), hdigits (n + 1)⟩

/-- The command that removes a resource stands on one line. -/
theorem Plan.newline_not_mem_removal (project : ProjectId) {dataset name : String}
    (hdataset : Layout.isIdentifier dataset = true) (hname : Layout.isIdentifier name = true) :
    '\n' ∉ (removal project dataset name).line.toList := by
  intro hmem
  rcases (removal_line project hdataset hname).2 _ hmem with hblank | hbare
  · cases hblank
  · cases hbare

namespace Program

/-- What a run sees of the machine. To a preview every command counts as a success. -/
def runner (m : Machine σ) (o : Options) : Host σ :=
  if o.preview then Host.preview m.isDirectory else m.host.logged

/-- The call comes to the end of its plan, and the command of the view succeeds. -/
def Fulfils (m : Machine σ) (s : σ) (words : List Word) : Prop :=
  ∃ o project layout, IsReady m s words o project layout ∧
    (runner m o).Completes s layout project ∧
    Plan.viewReply layout project (runner m o) s = .ok ⟨some 0⟩

/-- What a call has to tell, and why. -/
inductive Tells (m : Machine σ) (s : σ) (words : List Word) : Notice → Prop
  | install {tool : Tool} : m.LacksFirst s tool → Tells m s words (.install tool)
  | usage : m.HasTools s → Options.parse words = .error .misuse → Tells m s words .usage
  | project {o : Options} : m.HasTools s → Options.parse words = .ok o →
      ProjectId.parse? o.project = none → Tells m s words (.project o.project)
  | layout {o : Options} {project : ProjectId} {path : Path} {error : Layout.LoadError}
      {document : List Char} {causes : List Fault} : m.HasTools s → Options.parse words = .ok o →
      ProjectId.parse? o.project = some project → o.configuration = some path →
      Layout.load (m.read s) path = .error error → Layout.document (m.read s) path = document →
      Fault.ComesFrom (.failure (.layout error document)) causes →
      Tells m s words (.chain (.failure (.layout error document) :: causes))
  | failure {o : Options} {project : ProjectId} {layout : Layout} {k : Nat} {step : Step}
      {failure : Failure} {causes : List Fault} : IsReady m s words o project layout →
      (runner m o).FailsAt s layout project k step failure → failure.IsPlain →
      Fault.ComesFrom (.failure failure) causes →
      Tells m s words (.chain (.failure failure :: causes))
  | restart {o : Options} {project : ProjectId} {layout : Layout} {i : Nat} {table : Table}
      {status : ExitStatus} : IsReady m s words o project layout → layout.tables[i]? = some table →
      (runner m o).FailsAt s layout project (i + 3) (Plan.tableStepAt layout project i table)
        (.tableFailed ("Populate the BigQuery schema of " ++ table.name) status
          (Plan.removal project layout.dataset table.name).line) →
      Tells m s words (.restart ("Populate the BigQuery schema of " ++ table.name) status
        (Plan.removal project layout.dataset table.name).line)
  | view {o : Options} {project : ProjectId} {layout : Layout} {status : ExitStatus} :
      IsReady m s words o project layout → (runner m o).Completes s layout project →
      Plan.viewReply layout project (runner m o) s = .ok status → status.code ≠ some 0 →
      Tells m s words (.view ("Create the " ++ layout.view.name ++ " view")
        (Plan.removal project layout.dataset layout.view.name).line)

variable {m : Machine σ} {s : σ} {words : List Word}

/-- A call that is ready ends as the run of its plan does. -/
theorem ending_of_isReady {o : Options} {project : ProjectId} {layout : Layout} (called : Path)
    (h : IsReady m s words o project layout) :
    (call m s called words).ending =
      Ending.ofResult ((Plan.ofLayout layout project).run (runner m o) s).result := by
  have hplan : plan m s o = .ok (Plan.ofLayout layout project) :=
    (plan_eq_ok_iff m s o _).2 ⟨project, layout, h.project, h.layout, rfl⟩
  obtain ⟨events, hcall⟩ := call_of_hasTools called h.tools (.inr ⟨o, h.options⟩)
  rw [hcall, h.options]
  cases hpreview : o.preview <;>
    simp [respond, perform, hplan, hpreview, preview, execute, runner]

/-- A call that did all it was asked for has nothing to say. -/
theorem Fulfils.ending (account : Layout.Account) (called : Path) (h : Fulfils m s words) :
    (call m s called words).ending.text account = "" ∧
      (call m s called words).ending.exitCode = 0 := by
  obtain ⟨o, project, layout, hready, hcompletes, hview⟩ := h
  obtain ⟨report, hresult⟩ := (Plan.run_ofLayout_eq_ok_iff ..).2 hcompletes
  obtain ⟨status, hstatus, -, hpending⟩ := Plan.pendingCleanups_of_finished hresult
  cases hview.symm.trans hstatus
  have hnone : report.pendingCleanups = [] := hpending
  rw [ending_of_isReady called hready, hresult]
  simp [Ending.ofResult, Ending.text, Ending.exitCode, hnone]

theorem Tells.shows {notice : Notice} (called : Path) (hhelp : Options.parse words ≠ .error .help)
    (hversion : Options.parse words ≠ .error .version) (h : Tells m s words notice) :
    (call m s called words).ending.Shows notice := by
  have hrefused : ∀ {ending printed}, Refuses m s called words ending printed →
      (call m s called words).ending = ending := by
    intro ending printed hrefuses
    obtain ⟨events, hcall⟩ := call_of_refuses hrefuses
    rw [hcall]
  have hfailed : ∀ {o project layout k step failure}, IsReady m s words o project layout →
      (runner m o).FailsAt s layout project k step failure →
      (call m s called words).ending = .failed failure := by
    intro o project layout k step failure hready hfails
    rw [ending_of_isReady called hready, Plan.run_ofLayout_eq_error_iff.2 ⟨k, step, hfails⟩]
    rfl
  cases h with
  | install hlacks =>
    rw [hrefused (.tool hhelp hversion hlacks)]
    exact .install _
  | usage htools hparse =>
    rw [hrefused (.misuse htools hparse)]
    exact .usage
  | project htools hparse hproject =>
    rw [hrefused (.project htools hparse hproject)]
    exact .project _
  | layout htools hparse hproject hconfiguration hload hdocument hcauses =>
    rw [hrefused (.layout htools hparse hproject hconfiguration hload), hdocument]
    exact .chain trivial hcauses
  | failure hready hfails hplain hcauses =>
    rw [hfailed hready hfails]
    exact .chain hplain hcauses
  | restart hready _ hfails =>
    rw [hfailed hready hfails]
    exact .restart _ _ _
  | @view o project layout status hready hcompletes hview hc =>
    obtain ⟨report, hresult⟩ := (Plan.run_ofLayout_eq_ok_iff ..).2 hcompletes
    obtain ⟨status', hstatus, -, hpending⟩ := Plan.pendingCleanups_of_finished hresult
    cases hview.symm.trans hstatus
    rw [if_neg (mt status.isSuccess_iff.1 hc)] at hpending
    rw [ending_of_isReady called hready, hresult]
    exact .view hpending

theorem exists_tells (hhelp : Options.parse words ≠ .error .help)
    (hversion : Options.parse words ≠ .error .version) (h : ¬ Fulfils m s words) :
    ∃ notice, Tells m s words notice := by
  by_cases hready : ∃ o project layout, IsReady m s words o project layout
  · obtain ⟨o, project, layout, hready⟩ := hready
    cases hresult : ((Plan.ofLayout layout project).run (runner m o) s).result with
    | ok report =>
      have hcompletes := (Plan.run_ofLayout_eq_ok_iff ..).1 ⟨report, hresult⟩
      obtain ⟨status, hview, -⟩ := Plan.pendingCleanups_of_finished hresult
      have hc : status.code ≠ some 0 := by
        rintro hc
        obtain rfl : status = ⟨some 0⟩ := congrArg ExitStatus.mk hc
        exact h ⟨o, project, layout, hready, hcompletes, hview⟩
      exact ⟨_, .view hready hcompletes hview hc⟩
    | error failure =>
      obtain ⟨k, step, hfails⟩ := Plan.run_ofLayout_eq_error_iff.1 hresult
      by_cases hplain : failure.IsPlain
      · obtain ⟨causes, hcauses, -⟩ := failure.exists_comesFrom
        exact ⟨_, .failure hready hfails hplain hcauses⟩
      · -- Of the failures that stop a run, only that of a table asks for something to be removed.
        obtain ⟨label, status, cleanup, rfl⟩ :
            ∃ label status cleanup, failure = .tableFailed label status cleanup := by
          cases hfails.stops with
          | table => exact ⟨_, _, _, rfl⟩
          | _ => exact absurd trivial hplain
        obtain ⟨i, table, htable, rfl, rfl, rfl, rfl⟩ := hfails.exists_table
        exact ⟨_, .restart hready htable hfails⟩
  · obtain ⟨ending, printed, hrefuses⟩ := exists_refuses (Path.ofString Options.programName)
      fun o project layout hr => hready ⟨o, project, layout, hr⟩
    cases hrefuses with
    | help hparse => exact absurd hparse hhelp
    | version hparse => exact absurd hparse hversion
    | tool _ _ hlacks => exact ⟨_, .install hlacks⟩
    | misuse htools hparse => exact ⟨_, .usage htools hparse⟩
    | project htools hparse hproject => exact ⟨_, .project htools hparse hproject⟩
    | @layout _ _ _ error htools hparse hproject hconfiguration hload =>
      obtain ⟨causes, hcauses, -⟩ := (Failure.layout error _).exists_comesFrom
      exact ⟨_, .layout htools hparse hproject hconfiguration hload rfl hcauses⟩

/-- A notice that asks for a command to be run shows it on a line of its own. -/
theorem Tells.newline_not_mem {notice : Notice} {cleanup : String} (account : Layout.Account)
    (h : Tells m s words notice) (hcleanup : notice.cleanup? = some cleanup) :
    "  " ++ cleanup ∈ notice.lines account ∧ ∀ line ∈ notice.lines account, '\n' ∉ line.toList := by
  cases h with
  | @restart o project layout i table status hready htable _ =>
    cases hcleanup
    have hvalid := hready.layout.isValid
    have hname := hvalid.tableNames table (List.mem_of_getElem? htable)
    have hline := Plan.newline_not_mem_removal project hvalid.dataset hname
    have hstatus := status.newline_not_mem_display
    have hlabel : '\n' ∉ table.name.toList := Layout.not_mem_of_isIdentifier hname (by decide)
    refine ⟨by simp [Notice.lines], ?_⟩
    simp [Notice.lines, Options.programName, hline, hstatus, hlabel]
  | @view o project layout status hready _ _ _ =>
    cases hcleanup
    have hvalid := hready.layout.isValid
    have hline := Plan.newline_not_mem_removal project hvalid.dataset hvalid.viewName
    have hlabel : '\n' ∉ layout.view.name.toList :=
      Layout.not_mem_of_isIdentifier hvalid.viewName (by decide)
    refine ⟨by simp [Notice.lines], ?_⟩
    simp [Notice.lines, Options.programName, hline, hlabel]
  | _ => cases hcleanup

/-- A malformed text that a notice tells of was refused for the reason that is told with it. -/
theorem Tells.parse_eq_error {faults : List Fault} {document : List Char} {reason : Layout.Malformed}
    (h : Tells m s words (.chain faults)) (hmem : .malformed document reason ∈ faults) :
    Layout.parse document = .error reason := by
  cases h with
  | layout _ _ _ _ hload hdocument hcauses =>
    obtain ⟨path, hlayout⟩ := hcauses.eq_layout_of_mem hmem
    cases hlayout
    rw [← hdocument]
    exact Layout.parse_document_of_load hload
  | failure _ hfails _ hcauses =>
    obtain ⟨path, rfl⟩ := hcauses.eq_layout_of_mem hmem
    cases hfails.stops

theorem call_final (m : Machine σ) (s : σ) (called : Path) (words : List Word) :
    (call m s called words).final = m.host.after s (call m s called words).calls := by
  by_cases hready : ∃ o project layout, IsReady m s words o project layout
  · obtain ⟨o, project, layout, hready⟩ := hready
    exact (call_of_isReady called hready).2
  · obtain ⟨ending, printed, hrefuses⟩ := exists_refuses called fun o project layout h =>
      hready ⟨o, project, layout, h⟩
    obtain ⟨events, hcall⟩ := call_of_refuses hrefuses
    rw [hcall, Host.after_nil]

/-- Help and version apart, a call prints nothing exactly if it came to the end of its plan and the view was
made, and otherwise one notice, for one reason. The exit code of such a call is zero only for the notice
about the view. A command to be run stands on a line of its own, indented, and an error is shown with all
that it came from, and nothing twice. For a malformed text stands the account of the reader of TOML, whatever
that is, of the text that was read and the reason why it is no configuration. What the commands did to the
machine was done before. -/
theorem call_prints (account : Layout.Account) (m : Machine σ) (s : σ) (called : Path) (words : List Word)
    (hhelp : Options.parse words ≠ .error .help) (hversion : Options.parse words ≠ .error .version) :
    let outcome := call m s called words
    (outcome.ending.text account = "" ↔ Fulfils m s words) ∧
    (Fulfils m s words → outcome.ending.exitCode = 0) ∧
    (¬ Fulfils m s words → ∃! notice, Tells m s words notice) ∧
    (∀ notice, Tells m s words notice → outcome.ending.text account = notice.text account ∧
      (outcome.ending.exitCode = 0 ↔ ∃ label cleanup, notice = .view label cleanup) ∧
      (∀ cleanup, notice.cleanup? = some cleanup → "  " ++ cleanup ∈ notice.lines account ∧
        (notice.text account).toList.splitOn '\n' =
          (notice.lines account).map String.toList ++ [[]]) ∧
      ∀ faults, notice = .chain faults → (faults.map Fault.itself).Nodup ∧
        ∀ document reason, .malformed document reason ∈ faults →
          Layout.parse document = .error reason) ∧
    outcome.final = m.host.after s outcome.calls := by
  intro outcome
  have hshows : ∀ notice, Tells m s words notice → outcome.ending.Shows notice :=
    fun notice h => h.shows called hhelp hversion
  refine ⟨⟨fun hsilent => ?_, fun h => (h.ending account called).1⟩,
    fun h => (h.ending account called).2, fun h => ?_,
    fun notice h =>
      ⟨(hshows notice h).text_eq account, (hshows notice h).exitCode_eq_zero_iff, ?_, ?_⟩,
    call_final m s called words⟩
  · by_contra hnot
    obtain ⟨notice, h⟩ := exists_tells hhelp hversion hnot
    exact notice.text_ne_empty account (((hshows notice h).text_eq account).symm.trans hsilent)
  · obtain ⟨notice, hnotice⟩ := exists_tells hhelp hversion h
    exact ⟨notice, hnotice, fun other hother => (hshows other hother).unique (hshows notice hnotice)⟩
  · intro cleanup hcleanup
    obtain ⟨hmem, hlines⟩ := h.newline_not_mem account hcleanup
    exact ⟨hmem, splitOn_lines hlines⟩
  · rintro faults rfl
    exact ⟨(hshows _ h).nodup, fun document reason => h.parse_eq_error⟩

/-- The machine with everything in place is ready for a project. -/
theorem isReady_installed (bq : Reply) :
    IsReady (Machine.installed bq) () [Options.word "swarm-dev"] ⟨none, none, false, "swarm-dev"⟩
      ⟨"swarm-dev", by decide⟩ Layout.standard where
  tools := Machine.installed_hasTools bq
  options := by decide +kernel
  project := ProjectId.parse?_text ⟨"swarm-dev", by decide⟩
  layout := ⟨Layout.standard, rfl, rfl⟩

/-- The dataset is there already, and the view cannot be made. -/
theorem tells_view_installed :
    Tells (Machine.installed (.ok ⟨some 1⟩)) () [Options.word "swarm-dev"]
      (.view "Create the bot_events_delta view" "bq rm swarm-dev:swarming.bot_events_delta") := by
  have hready := isReady_installed (.ok ⟨some 1⟩)
  have hdir : FileTree.installed.isDirectory [] Layout.standard.schemaDirectory = true := by
    decide +kernel
  let host := (Machine.installed (.ok ⟨some 1⟩)).host.logged
  let steps := (Plan.ofLayout Layout.standard ⟨"swarm-dev", by decide⟩).steps
  have hreply : ∀ {k : Nat} {step : Step}, steps[k]? = some step →
      step.reply host (stateBefore host () steps k) =
        if step.command.program = "bq" then .ok ⟨some 1⟩ else .ok ⟨some 0⟩ :=
    fun hstep => Machine.installed_reply _ hstep
  have hcompletes : host.Completes () Layout.standard ⟨"swarm-dev", by decide⟩ := by
    intro k step hstep
    refine ⟨fun _ => hdir, ?_⟩
    by_cases hbq : step.command.program = "bq"
    · exact ⟨_, (hreply hstep).trans (if_pos hbq), fun hother => by simp [hbq] at hother⟩
    · exact ⟨_, (hreply hstep).trans (if_neg hbq), fun _ => rfl⟩
  have hshown : Plan.viewReply Layout.standard ⟨"swarm-dev", by decide⟩ host () = .ok ⟨some 1⟩ :=
    (hreply Plan.steps_getElem?_view).trans (if_pos rfl)
  have hline : (Plan.removal ⟨"swarm-dev", by decide⟩ Layout.standard.dataset
      Layout.standard.view.name).line = "bq rm swarm-dev:swarming.bot_events_delta" := by
    decide +kernel
  rw [← hline]
  exact .view hready hcompletes hshown (by decide)

/-- The machine with everything in place, and a configuration with a key that no layout has. -/
def installedWithUnknownKey : Machine Unit :=
  { Machine.installed (.ok ⟨some 0⟩) with
    files := fun _ => FileTree.installed.writeFile [] (Path.ofString "bq.toml")
      (Text.Utf8.encode "bogus = \"x\"\n".toList) false }

/-- The key is unknown, and the text that was read goes with that. -/
theorem tells_unknownKey :
    let document := "bogus = \"x\"\n".toList
    let reason := Layout.Malformed.entry (.unknownKey "bogus" Layout.keys)
    Tells installedWithUnknownKey () (["--config", "bq.toml", "swarm-dev"].map Options.word)
      (.chain [.failure (.layout (.malformed (Path.ofString "bq.toml") reason) document),
        .malformed document reason]) := by
  intro document reason
  have htext : (installedWithUnknownKey.read () (Path.ofString "bq.toml")).bind Layout.textOf =
      .ok document := by
    decide +kernel
  have hbare : ∀ line ∈ [Toml.Line.entry "bogus" "x"], Toml.isBareKey line.key = true := by decide
  have hentries : Toml.document? document = some [("bogus", .string "x")] :=
    (Toml.document?_render .plain hbare).trans rfl
  have hparse : Layout.parse document = .error reason := by
    rw [Layout.parse, hentries]
    rfl
  exact .layout (o := ⟨some (Path.ofString "bq.toml"), none, false, "swarm-dev"⟩)
    ((Machine.hasTools_iff _ _).2 (by decide +kernel)) (by decide +kernel)
    (ProjectId.parse?_text ⟨"swarm-dev", by decide⟩) rfl
    (by simp only [Layout.load, htext, hparse]) (by simp [Layout.document, htext, Except.toOption])
    (.next rfl (.last rfl))

/-- If the view cannot be made, the notice about it is all that is printed, and the call succeeds. If the
configuration is malformed, the account of the reader of TOML stands behind the error. -/
theorem call_prints_installed :
    let account : Layout.Account := fun _ reason =>
      match reason with
      | .document => "TOML parse error\n"
      | .entry mismatch => "TOML parse error at line 1, column 1\n  |\n1 | bogus = \"x\"\n  | ^^^^^\n" ++
          mismatch.message ++ "\n"
    let called := Path.ofString Options.programName
    let complete := call (Machine.installed (.ok ⟨some 1⟩)) () called [Options.word "swarm-dev"]
    let refused := call installedWithUnknownKey () called
      (["--config", "bq.toml", "swarm-dev"].map Options.word)
    (complete.ending.exitCode = 0 ∧
      complete.ending.text account = "\nCreate the bot_events_delta view failed. You may need to " ++
        "delete it with:\n\n  bq rm swarm-dev:swarming.bot_events_delta\n\nand run setup-bigquery " ++
        "again.\n") ∧
    refused.ending.exitCode ≠ 0 ∧
      refused.ending.text account = "failed to parse config file \"bq.toml\": TOML parse error at " ++
        "line 1, column 1\n  |\n1 | bogus = \"x\"\n  | ^^^^^\nunknown field `bogus`, expected one of " ++
        "`dataset`, `location`, `description`, `proto_dir`, `partition_expiration`, `tables`, `view`\n\n" := by
  intro account called complete refused
  obtain ⟨-, -, -, hcomplete, -⟩ := call_prints account (Machine.installed (.ok ⟨some 1⟩)) () called
    [Options.word "swarm-dev"] (by decide +kernel) (by decide +kernel)
  obtain ⟨-, -, -, hrefused, -⟩ := call_prints account installedWithUnknownKey () called
    (["--config", "bq.toml", "swarm-dev"].map Options.word) (by decide +kernel) (by decide +kernel)
  obtain ⟨hview, hexit, -⟩ := hcomplete _ tells_view_installed
  obtain ⟨hchain, hexit', -⟩ := hrefused _ tells_unknownKey
  refine ⟨⟨hexit.2 ⟨_, _, rfl⟩, hview.trans (by decide +kernel)⟩, ?_, hchain.trans (by decide +kernel)⟩
  intro hzero
  obtain ⟨_, _, hother⟩ := hexit'.1 hzero
  cases hother

end Program

end Provisioning
