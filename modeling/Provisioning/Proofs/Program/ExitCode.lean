import Provisioning.Proofs.Plan.NulFree
import Provisioning.Proofs.Program.Preparation
import Provisioning.Proofs.Run.Completion

/-! # The exit code

A call exits with zero if its arguments ask for help or the version, or if everything it needs is there
and its plan comes to its end. How the commands of `bq` end has no part in it, but they have to start. -/
namespace Provisioning

variable {σ τ : Type}

namespace Ending

theorem exitCode_eq_zero_or_one (e : Ending) : e.exitCode = 0 ∨ e.exitCode = 1 := by
  cases e <;> simp [exitCode]

theorem exitCode_ofResult_eq_zero_iff (result : Except Failure Report) :
    (ofResult result).exitCode = 0 ↔ ∃ report, result = .ok report := by
  cases result <;> simp [ofResult, exitCode]

end Ending

namespace Program

/-- The tools are found, the arguments fit, the project id is well formed and there is a layout. A
preview then needs the schema directory alone, and a real run a plan that comes to its end. -/
def Succeeds (m : Machine σ) (s : σ) (words : List Word) : Prop :=
  m.HasTools s ∧ ∃ o project layout,
    Options.parse words = .ok o ∧ ProjectId.parse? o.project = some project ∧
    o.LeadsTo (m.read s) layout ∧
    (o.preview = true → m.isDirectory s layout.schemaDirectory = true) ∧
    (o.preview = false → m.host.Completes s layout project)

variable {m : Machine σ} {s : σ} {o : Options}

theorem exitCode_perform_of_plan {layout : Layout} {project : ProjectId}
    (h : plan m s o = .ok (Plan.ofLayout layout project)) (htables : layout.tables ≠ []) :
    (perform m s o).ending.exitCode = 0 ↔
      (o.preview = true → m.isDirectory s layout.schemaDirectory = true) ∧
      (o.preview = false → m.host.Completes s layout project) := by
  cases hpreview : o.preview with
  | true =>
    have hending : (perform m s o).ending = Ending.ofResult
        ((Plan.ofLayout layout project).run (Host.preview m.isDirectory) s).result := by
      simp [perform, h, hpreview, preview]
    rw [hending, Ending.exitCode_ofResult_eq_zero_iff, Plan.run_ofLayout_eq_ok_iff,
      Host.completes_preview m.isDirectory s project htables]
    simp
  | false =>
    have hending : (perform m s o).ending = Ending.ofResult
        ((Plan.ofLayout layout project).run m.host.logged s).result := by
      simp [perform, h, hpreview, execute]
    rw [hending, Ending.exitCode_ofResult_eq_zero_iff, Plan.run_ofLayout_eq_ok_iff,
      Host.completes_logged]
    simp

theorem exitCode_perform_eq_zero_iff (m : Machine σ) (s : σ) (o : Options) :
    (perform m s o).ending.exitCode = 0 ↔ ∃ project layout,
      ProjectId.parse? o.project = some project ∧ o.LeadsTo (m.read s) layout ∧
      (o.preview = true → m.isDirectory s layout.schemaDirectory = true) ∧
      (o.preview = false → m.host.Completes s layout project) := by
  constructor
  · intro h
    cases hplan : plan m s o with
    | error failure => simp [perform, hplan, Ending.exitCode] at h
    | ok p =>
      obtain ⟨project, layout, hproject, hlayout, rfl⟩ := (plan_eq_ok_iff m s o p).1 hplan
      exact ⟨project, layout, hproject, hlayout,
        (exitCode_perform_of_plan hplan hlayout.isValid.tables_ne_nil).1 h⟩
  · rintro ⟨project, layout, hproject, hlayout, hends⟩
    have hplan := (plan_eq_ok_iff m s o _).2 ⟨project, layout, hproject, hlayout, rfl⟩
    exact (exitCode_perform_of_plan hplan hlayout.isValid.tables_ne_nil).2 hends

theorem exitCode_call_eq_zero_iff (m : Machine σ) (s : σ) (called : Path) (words : List Word) :
    (call m s called words).ending.exitCode = 0 ↔
      Options.parse words = .error .help ∨ Options.parse words = .error .version ∨
      Succeeds m s words := by
  unfold call Succeeds
  rw [m.hasTools_iff]
  obtain ⟨tools, found⟩ := Tool.lookUpRequired (m.surroundings s) m.searchPath m.directory.path
  cases hparse : Options.parse words with
  | error stop => cases stop <;> cases tools <;> simp [respond, Ending.exitCode]
  | ok o =>
    cases tools with
    | error failure => simp [Ending.exitCode]
    | ok _ => simp [respond, exitCode_perform_eq_zero_iff]

end Program

/-! ## How the commands of `bq` end -/

/-- Two machines do the same from related states, but a `bq` that both of them start may end in another way
on either. -/
structure Machine.AgreesButForBq (R : σ → τ → Prop) (m : Machine σ) (m' : Machine τ) : Prop where
  directory : m.directory = m'.directory
  home : m.home = m'.home
  searchPath : m.searchPath = m'.searchPath
  files : ∀ s t, R s t → m.files s = m'.files t
  next : ∀ s t, R s t → ∀ c, R (m.start s c).next (m'.start t c).next
  reply : ∀ s t, R s t → ∀ c, (m.start s c).reply = (m'.start t c).reply ∨
    c.program = "bq" ∧ ∃ status status',
      (m.start s c).reply = .ok status ∧ (m'.start t c).reply = .ok status'

namespace Machine.AgreesButForBq

variable {R : σ → τ → Prop} {m : Machine σ} {m' : Machine τ} {s : σ} {t : τ}

theorem symm (h : m.AgreesButForBq R m') : m'.AgreesButForBq (fun t s => R s t) m where
  directory := h.directory.symm
  home := h.home.symm
  searchPath := h.searchPath.symm
  files t s hst := (h.files s t hst).symm
  next t s hst c := h.next s t hst c
  reply t s hst c := by
    rcases h.reply s t hst c with hsame | ⟨hbq, status, status', hr, hr'⟩
    · exact .inl hsame.symm
    · exact .inr ⟨hbq, status', status, hr', hr⟩

theorem after (h : m.AgreesButForBq R m') (hst : R s t) (commands : List Command) :
    R (m.host.after s commands) (m'.host.after t commands) := by
  induction commands generalizing s t with
  | nil => exact hst
  | cons c rest ih => exact ih (h.next s t hst c)

theorem isDirectory (h : m.AgreesButForBq R m') (hst : R s t) (p : Path) :
    m.isDirectory s p = m'.isDirectory t p := by
  rw [Machine.isDirectory, Machine.isDirectory, h.files s t hst, h.directory]

theorem read (h : m.AgreesButForBq R m') (hst : R s t) : m.read s = m'.read t := by
  funext p
  rw [Machine.read, Machine.read, h.files s t hst, h.directory]

theorem hasTools (h : m.AgreesButForBq R m') (hst : R s t) (htools : m.HasTools s) :
    m'.HasTools t := by
  have hsurroundings : m'.surroundings t = m.surroundings s := by
    rw [surroundings, surroundings, h.files s t hst, h.directory, h.home]
  intro tool htool
  rw [← h.searchPath, ← h.directory, hsurroundings]
  exact htools tool htool

/-- A step whose reply may differ asks nothing of it but that there is one. -/
theorem completes (h : m.AgreesButForBq R m') (hst : R s t) {layout : Layout} {project : ProjectId}
    (hends : m.host.Completes s layout project) : m'.host.Completes t layout project := by
  intro k step hstep
  obtain ⟨hdir, status, hr, hgood⟩ := hends k step hstep
  have hbefore : R (stateBefore m.host s (Plan.ofLayout layout project).steps k)
      (stateBefore m'.host t (Plan.ofLayout layout project).steps k) := h.after hst _
  refine ⟨fun hprogram => ?_, ?_⟩
  · rw [← hdir hprogram]
    exact (h.isDirectory hbefore _).symm
  · rcases h.reply _ _ hbefore step.command with hsame | ⟨hbq, _, status', -, hr'⟩
    · exact ⟨status, hsame.symm.trans hr, hgood⟩
    · exact ⟨status', hr', fun hother => by simp [hbq] at hother⟩

theorem succeeds (h : m.AgreesButForBq R m') (hst : R s t) {words : List Word}
    (hs : Program.Succeeds m s words) : Program.Succeeds m' t words := by
  obtain ⟨htools, o, project, layout, hparse, hproject, hlayout, hpreview, hends⟩ := hs
  refine ⟨h.hasTools hst htools, o, project, layout, hparse, hproject, h.read hst ▸ hlayout, ?_, ?_⟩
  · intro hp
    rw [← h.isDirectory hst]
    exact hpreview hp
  · intro hp
    exact h.completes hst (hends hp)

theorem exitCode_eq_zero (h : m.AgreesButForBq R m') (hst : R s t) {called : Path}
    {words : List Word} (hzero : (Program.call m s called words).ending.exitCode = 0) :
    (Program.call m' t called words).ending.exitCode = 0 := by
  rw [Program.exitCode_call_eq_zero_iff] at hzero ⊢
  exact hzero.imp_right (Or.imp_right (h.succeeds hst))

end Machine.AgreesButForBq

theorem Program.not_succeeds_of_not_started {m : Machine σ} {s : σ} {words : List Word} {o : Options}
    {project : ProjectId} {layout : Layout} {k : Nat} {step : Step} {cause : SystemError}
    (hparse : Options.parse words = .ok o) (hreal : o.preview = false)
    (hproject : ProjectId.parse? o.project = some project) (hlayout : o.LeadsTo (m.read s) layout)
    (hstep : (Plan.ofLayout layout project).steps[k]? = some step)
    (hcause : (m.start (stateBefore m.host s (Plan.ofLayout layout project).steps k)
      step.command).reply = .error cause) : ¬ Succeeds m s words := by
  rintro ⟨-, o', project', layout', hparse', hproject', hlayout', -, hends⟩
  cases hparse.symm.trans hparse'
  cases hproject.symm.trans hproject'
  rw [← layout_eq_ok_iff] at hlayout hlayout'
  cases hlayout.symm.trans hlayout'
  obtain ⟨-, status, hr, -⟩ := hends hreal k step hstep
  cases hcause.symm.trans hr

/-! ## A machine with everything in place -/

theorem Command.isNulFree_iff (c : Command) :
    c.IsNulFree ↔ (c.words.any fun word => word.toList.contains '\x00') = false := by
  simp [IsNulFree]

/-- Where it has a directory, a command without a NUL asks for nothing but its program. -/
theorem Machine.prepare_of_isNulFree {m : Machine σ} {s : σ} {c : Command} {directory : Location}
    (hfree : c.IsNulFree) (hdirectory : m.directoryOf s c = .ok directory) :
    m.prepare s c = (Process.findProgram (m.files s) m.searchPath directory c.program).map
      fun file => (file, directory) := by
  simp only [prepare, c.isNulFree_iff.1 hfree, hdirectory, Bool.false_eq_true, if_false]
  change (Process.findProgram (m.files s) m.searchPath directory c.program >>= fun file =>
    pure (file, directory)) = _
  cases Process.findProgram (m.files s) m.searchPath directory c.program <;> rfl

theorem Machine.start_reply {m : Machine σ} {s : σ} {c : Command} {file directory : Location}
    (hfree : c.IsNulFree) (hdirectory : m.directoryOf s c = .ok directory)
    (hfile : Process.findProgram (m.files s) m.searchPath directory c.program = .ok file) :
    (m.start s c).reply = (m.execute s file directory c).1 := by
  have hprepare : m.prepare s c = .ok (file, directory) := by
    rw [prepare_of_isNulFree hfree hdirectory, hfile]
    rfl
  rw [start, hprepare]

/-- Three programs in one directory, and the schema directory. -/
def FileTree.installed : FileTree :=
  let programs := ["/bin/bq", "/bin/bqschemaupdater", "/bin/gcloud"].map Path.ofString
  let tree := programs.foldl (fun (t : FileTree) file => t.writeFile [] file [] true) {}
  tree.makeDirectory [] (Path.ofString "/proto/api")

/-- The directory of the programs. -/
def SearchPath.installed : SearchPath :=
  ⟨(Path.ofString "/bin").octets⟩

namespace Machine

/-- A machine on which everything is in place and succeeds, but for `bq`, which always ends alike. -/
def installed (bq : Reply) : Machine Unit where
  files _ := FileTree.installed
  directory := []
  home := none
  searchPath := some SearchPath.installed
  execute _ _ _ c := (if c.program = "bq" then bq else .ok ⟨some 0⟩, ())

theorem installed_agrees (status status' : ExitStatus) :
    (installed (.ok status)).AgreesButForBq (fun _ _ => True) (installed (.ok status')) where
  directory := rfl
  home := rfl
  searchPath := rfl
  files _ _ _ := rfl
  next _ _ _ _ := trivial
  reply s t _ c := by
    have hprepare : (installed (.ok status')).prepare t c = (installed (.ok status)).prepare s c := rfl
    rw [start, start, hprepare]
    cases (installed (.ok status)).prepare s c with
    | error cause => exact .inl rfl
    | ok found =>
      by_cases hbq : c.program = "bq"
      · exact .inr ⟨hbq, status, status', by simp [installed, hbq], by simp [installed, hbq]⟩
      · exact .inl (by simp [installed, hbq])

theorem installed_reply (bq : Reply) {project : ProjectId} {k : Nat} {step : Step}
    (hstep : (Plan.ofLayout Layout.standard project).steps[k]? = some step) :
    ((installed bq).start () step.command).reply =
      if step.command.program = "bq" then bq else .ok ⟨some 0⟩ := by
  let schemas : Location := ["proto", "api"].map fun name => (Path.ofString name).octets
  have henter : FileTree.installed.enter [] Layout.standard.schemaDirectory = .ok schemas := by
    decide +kernel
  have hgcloud : (Process.findProgram FileTree.installed (some SearchPath.installed) []
      "gcloud").isOk = true := by decide +kernel
  have hbq : (Process.findProgram FileTree.installed (some SearchPath.installed) []
      "bq").isOk = true := by decide +kernel
  have hupdater : (Process.findProgram FileTree.installed (some SearchPath.installed) schemas
      "bqschemaupdater").isOk = true := by decide +kernel
  have hfree := Plan.command_isNulFree Layout.standard_isNulFree hstep
  rcases Plan.step_kinds hstep with ⟨hp, hd, -⟩ | ⟨hp, hd, -⟩ | ⟨hp, hd, -⟩
  · obtain ⟨file, hfile⟩ := exists_eq_ok hgcloud
    exact start_reply hfree (by rw [directoryOf, hd]; rfl) (hp ▸ hfile)
  · obtain ⟨file, hfile⟩ := exists_eq_ok hbq
    exact start_reply hfree (by rw [directoryOf, hd]; rfl) (hp ▸ hfile)
  · obtain ⟨file, hfile⟩ := exists_eq_ok hupdater
    exact start_reply hfree (by rw [directoryOf, hd]; exact henter) (hp ▸ hfile)

theorem installed_hasTools (bq : Reply) : (installed bq).HasTools () := by
  have hfound : ∀ tool ∈ Tool.required, (SearchPath.installed.find? ⟨FileTree.installed, [], none⟩
      (Location.path []) tool.name).isSome = true := by
    decide +kernel
  intro tool htool
  obtain ⟨file, hfile⟩ := Option.isSome_iff_exists.1 (hfound tool htool)
  exact ⟨SearchPath.installed, file, rfl, hfile⟩

end Machine

/-! ## The exit code of a call -/

namespace Program

/-- A call exits with zero exactly if its arguments ask for help or the version or it has all it needs and
its plan comes to its end, and with one otherwise. How `bq` ends once it was started makes no difference,
but every command has to start. -/
theorem exitCode_call (m : Machine σ) (s : σ) (called : Path) (words : List Word) :
    ((call m s called words).ending.exitCode = 0 ↔
      Options.parse words = .error .help ∨ Options.parse words = .error .version ∨
      Succeeds m s words) ∧
    ((call m s called words).ending.exitCode ≠ 0 →
      (call m s called words).ending.exitCode = 1) ∧
    (∀ (τ : Type) (m' : Machine τ) (t : τ) (R : σ → τ → Prop), m.AgreesButForBq R m' → R s t →
      (call m' t called words).ending.exitCode = (call m s called words).ending.exitCode) ∧
    ∀ (o : Options) (project : ProjectId) (layout : Layout) (k : Nat) (step : Step)
      (cause : SystemError), Options.parse words = .ok o → o.preview = false →
      ProjectId.parse? o.project = some project → o.LeadsTo (m.read s) layout →
      (Plan.ofLayout layout project).steps[k]? = some step →
      (m.start (stateBefore m.host s (Plan.ofLayout layout project).steps k) step.command).reply =
        .error cause →
      (call m s called words).ending.exitCode = 1 := by
  refine ⟨exitCode_call_eq_zero_iff m s called words,
    (Ending.exitCode_eq_zero_or_one _).resolve_left, ?_, ?_⟩
  · intro τ m' t R hagrees hst
    rcases (call m s called words).ending.exitCode_eq_zero_or_one with hzero | hone
    · rw [hzero]
      exact hagrees.exitCode_eq_zero hst hzero
    · rw [hone]
      refine (Ending.exitCode_eq_zero_or_one _).resolve_left fun hzero => ?_
      rw [hagrees.symm.exitCode_eq_zero hst hzero] at hone
      cases hone
  · intro o project layout k step cause hparse hreal hproject hlayout hstep hcause
    refine (Ending.exitCode_eq_zero_or_one _).resolve_left fun hzero => ?_
    rcases (exitCode_call_eq_zero_iff m s called words).1 hzero with hhelp | hversion | hs
    · cases hparse.symm.trans hhelp
    · cases hparse.symm.trans hversion
    · exact not_succeeds_of_not_started hparse hreal hproject hlayout hstep hcause hs

/-- A signal that ends every `bq` does as little harm as a success, but a `bq` that cannot be executed
does. -/
theorem exitCode_call_installed :
    let words := [Options.word "swarm-dev"]
    let exitCode (bq : Reply) :=
      (call (Machine.installed bq) () (Path.ofString Options.programName) words).ending.exitCode
    exitCode (.ok ⟨some 0⟩) = 0 ∧ exitCode (.ok ⟨none⟩) = 0 ∧ exitCode (.error .notProgram) = 1 := by
  intro words exitCode
  let project : ProjectId := ⟨"swarm-dev", by decide⟩
  have hparse : Options.parse words = .ok ⟨none, none, false, "swarm-dev"⟩ := by decide +kernel
  have hproject : ProjectId.parse? "swarm-dev" = some project := project.parse?_text
  have hlayout (bq : Reply) : Options.LeadsTo ((Machine.installed bq).read ())
      ⟨none, none, false, "swarm-dev"⟩ Layout.standard := ⟨Layout.standard, rfl, rfl⟩
  have hdir : FileTree.installed.isDirectory [] Layout.standard.schemaDirectory = true := by
    decide +kernel
  have hzero : exitCode (.ok ⟨some 0⟩) = 0 := by
    refine (exitCode_call _ _ _ _).1.2 (.inr (.inr ⟨Machine.installed_hasTools _, _, project,
      Layout.standard, hparse, hproject, hlayout _, by simp, fun _ => ?_⟩))
    intro k step hstep
    refine ⟨fun _ => hdir, ⟨some 0⟩, ?_, fun _ => rfl⟩
    have hreply := Machine.installed_reply (.ok ⟨some 0⟩) hstep
    rwa [ite_self] at hreply
  refine ⟨hzero, ?_, ?_⟩
  · rw [← hzero]
    exact (exitCode_call _ _ _ _).2.2.1 Unit (Machine.installed (.ok ⟨none⟩)) () _
      (Machine.installed_agrees ⟨some 0⟩ ⟨none⟩) trivial
  · exact (exitCode_call _ _ _ _).2.2.2 _ project Layout.standard 2
      (Plan.datasetStep Layout.standard project) .notProgram hparse rfl hproject (hlayout _) rfl
      (Machine.installed_reply (.error .notProgram) (k := 2) rfl)

end Program

end Provisioning
