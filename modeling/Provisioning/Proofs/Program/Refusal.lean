import Provisioning.Proofs.Program.Preparation
import Provisioning.Proofs.Run.Completion

/-! # What a call refuses

A call looks at its arguments, the tools, the project id and the layout before it starts anything. Of all
that is wrong it reports the first in that order, but misuse only once the tools are there, and then the
machine is left alone. Otherwise it starts the commands of one plan, in order. -/
namespace Provisioning

/-- A search for tools fails for the first that is not found. -/
theorem Tool.lookUp_eq (find? : String → Option Path) (tools : List Tool) :
    (lookUp find? tools).1 =
      match tools.find? fun tool => (find? tool.name).isNone with
      | none => .ok ()
      | some tool => .error (.missingTool tool) := by
  induction tools with
  | nil => rfl
  | cons tool rest ih => cases h : find? tool.name <;> simp [lookUp, h, ih]

theorem Tool.lookUp_eq_error_iff (find? : String → Option Path) (tools : List Tool) (failure : Failure) :
    (lookUp find? tools).1 = .error failure ↔ ∃ before tool after, tools = before ++ tool :: after ∧
      (∀ earlier ∈ before, ∃ file, find? earlier.name = some file) ∧ find? tool.name = none ∧
      failure = .missingTool tool := by
  rw [lookUp_eq]
  constructor
  · intro h
    split at h
    · cases h
    · next tool hfirst =>
      obtain ⟨hnone, before, after, htools, hbefore⟩ := List.find?_eq_some_iff_append.1 hfirst
      refine ⟨before, tool, after, htools, fun earlier hearlier => ?_, Option.isNone_iff_eq_none.1 hnone,
        (Except.error.inj h).symm⟩
      exact Option.isSome_iff_exists.1 (by simpa using hbefore earlier hearlier)
  · rintro ⟨before, tool, after, htools, hbefore, hnone, rfl⟩
    have hfirst : tools.find? (fun tool => (find? tool.name).isNone) = some tool := by
      refine List.find?_eq_some_iff_append.2 ⟨by rw [hnone]; rfl, before, after, htools,
        fun earlier hearlier => ?_⟩
      obtain ⟨file, hfile⟩ := hbefore earlier hearlier
      rw [hfile]
      rfl
    rw [hfirst]

variable {σ : Type}

namespace Machine

/-- A tool is found along the search path. -/
def Finds (m : Machine σ) (s : σ) (tool : Tool) : Prop :=
  ∃ p file, m.searchPath = some p ∧
    p.find? (m.surroundings s) m.directory.path tool.name = some file

/-- A required tool is not found, and those before it are. -/
def LacksFirst (m : Machine σ) (s : σ) (tool : Tool) : Prop :=
  ∃ before after, Tool.required = before ++ tool :: after ∧
    (∀ earlier ∈ before, m.Finds s earlier) ∧ ¬ m.Finds s tool

theorem finds_iff (m : Machine σ) (s : σ) (tool : Tool) : m.Finds s tool ↔
    ∃ file, (m.searchPath.bind fun p => p.find? (m.surroundings s) m.directory.path tool.name) =
      some file := by
  cases h : m.searchPath <;> simp [Finds, h]

theorem lacksFirst_iff (m : Machine σ) (s : σ) (tool : Tool) : m.LacksFirst s tool ↔
    (Tool.lookUpRequired (m.surroundings s) m.searchPath m.directory.path).1 =
      .error (.missingTool tool) := by
  simp only [Tool.lookUpRequired, Tool.lookUp_eq_error_iff, LacksFirst, finds_iff, not_exists,
    ← Option.eq_none_iff_forall_ne_some, Failure.missingTool.injEq]
  constructor
  · rintro ⟨before, after, hrequired, hbefore, hmissing⟩
    exact ⟨before, tool, after, hrequired, hbefore, hmissing, rfl⟩
  · rintro ⟨before, _, after, hrequired, hbefore, hmissing, rfl⟩
    exact ⟨before, after, hrequired, hbefore, hmissing⟩

/-- Where a required tool is not found, one of them is the first. -/
theorem exists_lacksFirst {m : Machine σ} {s : σ} (h : ¬ m.HasTools s) :
    ∃ tool, m.LacksFirst s tool := by
  rw [m.hasTools_iff] at h
  cases hfound : (Tool.lookUpRequired (m.surroundings s) m.searchPath m.directory.path).1 with
  | ok u => exact absurd hfound h
  | error failure =>
    obtain ⟨_, tool, _, -, -, -, rfl⟩ := (Tool.lookUp_eq_error_iff _ _ failure).1 hfound
    exact ⟨tool, (m.lacksFirst_iff s tool).2 hfound⟩

end Machine

/-! ## What is printed -/

namespace Ending

variable (account : Layout.Account)

-- The texts are unfolded here once: the equations of so many strings side by side are slow to derive.

theorem text_missingTool (tool : Tool) : (Ending.failed (.missingTool tool)).text account =
    "Please install '" ++ tool.name ++ "' from " ++ tool.origin ++ "\n  " ++ tool.install ++ "\n" := by
  delta Ending.text failureText Failure.chain Failure.message Failure.causes
  dsimp only
  rw [String.intercalate_singleton]

theorem text_invalidProjectId (raw : String) : (Ending.failed (.invalidProjectId raw)).text account =
    "invalid project id " ++ Text.Quoted.quote raw ++ "\n\n" ++ Options.usage := by
  delta Ending.text failureText Failure.message
  dsimp only

theorem text_layout (error : Layout.LoadError) (document : List Char) :
    (Ending.failed (.layout error document)).text account =
      ": ".intercalate (error.message :: error.causes (account document)) ++ "\n" := by
  delta Ending.text failureText Failure.chain Failure.message Failure.causes
  dsimp only

end Ending

/-! ## Reasons to refuse a call -/

namespace Program

/-- All that a call looks at before it starts a command is in order. -/
structure IsReady (m : Machine σ) (s : σ) (words : List Word) (o : Options) (project : ProjectId)
    (layout : Layout) : Prop where
  tools : m.HasTools s
  options : Options.parse words = .ok o
  project : ProjectId.parse? o.project = some project
  layout : o.LeadsTo (m.read s) layout

/-- How a call ends that comes to nothing, and what it prints, which takes from the reader of TOML its account
of a malformed text. Each reason presupposes that those before it do not hold, and none asks about those behind
it. -/
inductive Refuses (m : Machine σ) (s : σ) (called : Path) (words : List Word) :
    Ending → (Layout.Account → String) → Prop
  | help : Options.parse words = .error .help →
      Refuses m s called words (.help (Options.calledName called))
        fun _ => Options.help (Options.calledName called)
  | version : Options.parse words = .error .version →
      Refuses m s called words .version fun _ => Options.version
  | tool {tool : Tool} : Options.parse words ≠ .error .help →
      Options.parse words ≠ .error .version → m.LacksFirst s tool →
      Refuses m s called words (.failed (.missingTool tool)) fun _ =>
        "Please install '" ++ tool.name ++ "' from " ++ tool.origin ++ "\n  " ++ tool.install ++ "\n"
  | misuse : m.HasTools s → Options.parse words = .error .misuse →
      Refuses m s called words .misuse fun _ => Options.usage
  | project {o : Options} : m.HasTools s → Options.parse words = .ok o →
      ProjectId.parse? o.project = none →
      Refuses m s called words (.failed (.invalidProjectId o.project)) fun _ =>
        "invalid project id " ++ Text.Quoted.quote o.project ++ "\n\n" ++ Options.usage
  | layout {o : Options} {project : ProjectId} {path : Path} {error : Layout.LoadError} :
      m.HasTools s → Options.parse words = .ok o → ProjectId.parse? o.project = some project →
      o.configuration = some path → Layout.load (m.read s) path = .error error →
      Refuses m s called words (.failed (.layout error (Layout.document (m.read s) path))) fun account =>
        ": ".intercalate (error.message :: error.causes (account (Layout.document (m.read s) path))) ++ "\n"

variable {m : Machine σ} {s : σ} {called : Path} {words : List Word}

theorem Refuses.not_isReady {ending : Ending} {printed : Layout.Account → String}
    (h : Refuses m s called words ending printed) (o : Options) (project : ProjectId)
    (layout : Layout) : ¬ IsReady m s words o project layout := by
  intro hready
  cases h with
  | help hparse => cases hparse.symm.trans hready.options
  | version hparse => cases hparse.symm.trans hready.options
  | tool _ _ hlacks =>
    have htools := (m.hasTools_iff s).1 hready.tools
    rw [(Machine.lacksFirst_iff ..).1 hlacks] at htools
    cases htools
  | misuse _ hparse => cases hparse.symm.trans hready.options
  | project _ hparse hproject =>
    cases hparse.symm.trans hready.options
    cases hproject.symm.trans hready.project
  | layout _ hparse _ hconfiguration hload =>
    cases hparse.symm.trans hready.options
    obtain ⟨base, hbase, -⟩ := hready.layout
    rw [hconfiguration] at hbase
    cases hload.symm.trans hbase

/-- If not everything is in order, there is a reason to refuse the call. -/
theorem exists_refuses (called : Path) (h : ∀ o project layout, ¬ IsReady m s words o project layout) :
    ∃ ending printed, Refuses m s called words ending printed := by
  by_cases hhelp : Options.parse words = .error .help
  · exact ⟨_, _, .help hhelp⟩
  by_cases hversion : Options.parse words = .error .version
  · exact ⟨_, _, .version hversion⟩
  by_cases htools : m.HasTools s
  · cases hparse : Options.parse words with
    | error stop =>
      cases stop with
      | help => exact absurd hparse hhelp
      | version => exact absurd hparse hversion
      | misuse => exact ⟨_, _, .misuse htools hparse⟩
    | ok o =>
      cases hproject : ProjectId.parse? o.project with
      | none => exact ⟨_, _, .project htools hparse hproject⟩
      | some project =>
        have hnone : ∀ layout, ¬ o.LeadsTo (m.read s) layout := fun layout hlayout =>
          h o project layout ⟨htools, hparse, hproject, hlayout⟩
        cases hconfiguration : o.configuration with
        | none => exact absurd ⟨Layout.standard, by rw [hconfiguration], rfl⟩ (hnone _)
        | some path =>
          cases hload : Layout.load (m.read s) path with
          | error error => exact ⟨_, _, .layout htools hparse hproject hconfiguration hload⟩
          | ok base => exact absurd ⟨base, by rw [hconfiguration]; exact hload, rfl⟩ (hnone _)
  · obtain ⟨tool, hlacks⟩ := Machine.exists_lacksFirst htools
    exact ⟨_, _, .tool hhelp hversion hlacks⟩

theorem call_of_lacksFirst {tool : Tool} (called : Path) (hhelp : Options.parse words ≠ .error .help)
    (hversion : Options.parse words ≠ .error .version) (h : m.LacksFirst s tool) :
    ∃ events, call m s called words =
      { ending := .failed (.missingTool tool), events := events, final := s } := by
  have htools := (Machine.lacksFirst_iff ..).1 h
  rcases hfound : Tool.lookUpRequired (m.surroundings s) m.searchPath m.directory.path with ⟨tools, found⟩
  rw [hfound] at htools
  obtain rfl : tools = .error (.missingTool tool) := htools
  refine ⟨found, ?_⟩
  cases hparse : Options.parse words with
  | error stop =>
    cases stop with
    | help => exact absurd hparse hhelp
    | version => exact absurd hparse hversion
    | misuse => simp [call, hparse, hfound]
  | ok o => simp [call, hparse, hfound]

/-- With the tools at hand, a call does what its arguments ask for. -/
theorem call_of_hasTools (called : Path) (h : m.HasTools s)
    (hparse : Options.parse words = .error .misuse ∨ ∃ o, Options.parse words = .ok o) :
    ∃ events, call m s called words =
      { respond m s (Options.parse words) with events := events } := by
  have htools := (m.hasTools_iff s).1 h
  rcases hfound : Tool.lookUpRequired (m.surroundings s) m.searchPath m.directory.path with ⟨tools, found⟩
  rw [hfound] at htools
  obtain rfl : tools = .ok () := htools
  refine ⟨found ++ (respond m s (Options.parse words)).events, ?_⟩
  rcases hparse with hparse | ⟨o, hparse⟩ <;> simp [call, hparse, hfound]

/-- Without a plan nothing is done. -/
theorem call_of_plan_error {o : Options} {failure : Failure} (called : Path) (h : m.HasTools s)
    (hparse : Options.parse words = .ok o) (hplan : plan m s o = .error failure) :
    ∃ events, call m s called words = { ending := .failed failure, events := events, final := s } := by
  obtain ⟨events, hcall⟩ := call_of_hasTools called h (.inr ⟨o, hparse⟩)
  refine ⟨events, ?_⟩
  simp [hcall, hparse, respond, perform, hplan]

theorem Refuses.text_eq {ending : Ending} {printed : Layout.Account → String}
    (h : Refuses m s called words ending printed) (account : Layout.Account) :
    ending.text account = printed account := by
  cases h with
  | help => simp only [Ending.text]
  | version => simp only [Ending.text]
  | tool => exact Ending.text_missingTool account _
  | misuse => simp only [Ending.text]
  | project => exact Ending.text_invalidProjectId account _
  | layout => exact Ending.text_layout account _ _

theorem call_of_refuses {ending : Ending} {printed : Layout.Account → String}
    (h : Refuses m s called words ending printed) :
    ∃ events, call m s called words = { ending := ending, events := events, final := s } := by
  cases h with
  | help hparse => exact ⟨[], by simp [call, hparse]⟩
  | version hparse => exact ⟨[], by simp [call, hparse]⟩
  | tool hhelp hversion hlacks => exact call_of_lacksFirst called hhelp hversion hlacks
  | misuse htools hparse =>
    obtain ⟨events, hcall⟩ := call_of_hasTools called htools (.inl hparse)
    exact ⟨events, by simp [hcall, hparse, respond]⟩
  | project htools hparse hproject =>
    exact call_of_plan_error called htools hparse ((plan_eq_error_iff ..).2 (.inl ⟨hproject, rfl⟩))
  | layout htools hparse hproject hconfiguration hload =>
    have hlayout := (layout_eq_error_iff m s _ _).2 ⟨_, _, hconfiguration, hload, rfl⟩
    exact call_of_plan_error called htools hparse
      ((plan_eq_error_iff ..).2 (.inr ⟨⟨_, hproject⟩, hlayout⟩))

/-- A call that is ready previews its plan or carries it out. -/
theorem call_of_isReady {o : Options} {project : ProjectId} {layout : Layout} (called : Path)
    (h : IsReady m s words o project layout) :
    (call m s called words).calls = (if o.preview then [] else
      ((Plan.ofLayout layout project).run m.host.logged s).calls) ∧
    (call m s called words).final = m.host.after s (call m s called words).calls := by
  have hplan : plan m s o = .ok (Plan.ofLayout layout project) :=
    (plan_eq_ok_iff m s o _).2 ⟨project, layout, h.project, h.layout, rfl⟩
  obtain ⟨events, hcall⟩ := call_of_hasTools called h.tools (.inr ⟨o, h.options⟩)
  rw [hcall, h.options]
  cases hpreview : o.preview with
  | true =>
    have hfinal : ((Plan.ofLayout layout project).run (Host.preview m.isDirectory) s).final = s :=
      (runSteps_final ..).trans (Host.after_preview ..)
    simp [respond, perform, hplan, hpreview, preview, hfinal]
  | false =>
    have hfinal : ((Plan.ofLayout layout project).run m.host.logged s).final =
        m.host.logged.after s ((Plan.ofLayout layout project).run m.host.logged s).calls :=
      runSteps_final ..
    simp [respond, perform, hplan, hpreview, execute, hfinal, Host.after_logged]

/-- What a call hands over once it is ready are the first commands of its plan. -/
theorem calls_of_isReady {o : Options} {project : ProjectId} {layout : Layout}
    (h : IsReady m s words o project layout) (hne : (call m s called words).calls ≠ []) :
    o.preview = false ∧
      (call m s called words).calls <+: (Plan.ofLayout layout project).steps.map Step.command ∧
      m.host.started s (call m s called words).calls <+:
        (Plan.ofLayout layout project).steps.map Step.command := by
  have hcalls := (call_of_isReady called h).1
  cases hpreview : o.preview with
  | true =>
    rw [hpreview, if_pos rfl] at hcalls
    exact absurd hcalls hne
  | false =>
    rw [hpreview, if_neg (by decide)] at hcalls
    have hbegins := runSteps_calls_isPrefix m.host.logged s (Plan.ofLayout layout project).steps
    have hstarted := started_runSteps_isPrefix m.host.logged s (Plan.ofLayout layout project).steps
    rw [Host.started_logged] at hstarted
    rw [hcalls]
    exact ⟨rfl, hbegins, hstarted.trans hbegins⟩

/-- A call starts commands only if it is no preview and everything it looks at is in order, and then they
are the first ones of its plan. It is refused exactly if something is not in order, for one reason alone
and without any command; this holds whatever the reader of TOML has to say of a malformed text. Nothing is done
to the machine but by the commands. -/
theorem call_starts_only_if_ready (account : Layout.Account) (m : Machine σ) (s : σ) (called : Path)
    (words : List Word) :
    let outcome := call m s called words
    (outcome.calls ≠ [] → ∃ o project layout, IsReady m s words o project layout ∧
      o.preview = false ∧
      outcome.calls <+: (Plan.ofLayout layout project).steps.map Step.command ∧
      m.host.started s outcome.calls <+: (Plan.ofLayout layout project).steps.map Step.command) ∧
    ((∃ ending printed, Refuses m s called words ending printed) ↔
      ∀ o project layout, ¬ IsReady m s words o project layout) ∧
    (∀ ending printed, Refuses m s called words ending printed →
      outcome.ending = ending ∧ outcome.ending.text account = printed account ∧ outcome.calls = []) ∧
    outcome.final = m.host.after s outcome.calls := by
  intro outcome
  have hrefused : ∀ ending printed, Refuses m s called words ending printed →
      (outcome.ending = ending ∧ outcome.ending.text account = printed account ∧
        outcome.calls = []) ∧ outcome.final = s := by
    intro ending printed h
    obtain ⟨events, hcall⟩ := call_of_refuses h
    have houtcome : outcome = { ending := ending, events := events, final := s } := hcall
    rw [houtcome]
    exact ⟨⟨rfl, h.text_eq account, rfl⟩, rfl⟩
  have hnot : (∃ ending printed, Refuses m s called words ending printed) ↔
      ∀ o project layout, ¬ IsReady m s words o project layout :=
    ⟨fun ⟨_, _, h⟩ => h.not_isReady, exists_refuses called⟩
  by_cases hready : ∃ o project layout, IsReady m s words o project layout
  · obtain ⟨o, project, layout, hready⟩ := hready
    exact ⟨fun hne => ⟨o, project, layout, hready, calls_of_isReady hready hne⟩, hnot,
      fun ending printed h => (hrefused ending printed h).1, (call_of_isReady called hready).2⟩
  · obtain ⟨ending, printed, h⟩ := hnot.2 fun o project layout h => hready ⟨o, project, layout, h⟩
    obtain ⟨⟨-, -, hcalls⟩, hfinal⟩ := hrefused ending printed h
    refine ⟨fun hne => absurd hcalls hne, hnot,
      fun ending printed h => (hrefused ending printed h).1, ?_⟩
    rw [hcalls, hfinal, Host.after_nil]

/-- Two project ids, neither of them well formed, where no program is found: the first tool is missing. -/
theorem call_starts_only_if_ready_without_tools :
    let m : Machine Unit :=
      { files := fun _ => {}, directory := [], home := none, searchPath := none,
        execute := fun _ _ _ _ => (.error .noSuchFile, ()) }
    let words := ["swarm.dev", "a:b:c"].map Options.word
    let outcome := call m () (Path.ofString Options.programName) words
    let tool : Tool := ⟨"bq", "gcloud SDK", "https://cloud.google.com/sdk/install"⟩
    let account : Layout.Account := fun _ _ => "TOML parse error\n"
    Options.parse words = .error .misuse ∧ m.LacksFirst () tool ∧
      outcome.ending = .failed (.missingTool tool) ∧
      outcome.ending.text account = "Please install '" ++ tool.name ++ "' from " ++ tool.origin ++ "\n  " ++
        tool.install ++ "\n" ∧
      outcome.calls = [] := by
  intro m words outcome tool account
  have hparse : Options.parse words = .error .misuse := by decide +kernel
  have hlacks : m.LacksFirst () tool := by
    refine ⟨[], Tool.required.tail, rfl, by simp, ?_⟩
    rintro ⟨p, file, hp, -⟩
    cases hp
  have hrefuses : Refuses m () (Path.ofString Options.programName) words _ _ :=
    .tool (by simp [hparse]) (by simp [hparse]) hlacks
  obtain ⟨-, -, hall, -⟩ :=
    call_starts_only_if_ready account m () (Path.ofString Options.programName) words
  exact ⟨hparse, hlacks, hall _ _ hrefuses⟩

end Program

end Provisioning
