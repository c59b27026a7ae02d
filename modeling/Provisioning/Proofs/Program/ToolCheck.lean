import Provisioning.Proofs.Files.Resolution
import Provisioning.Proofs.Program.ExitCode
import Provisioning.Proofs.Program.Refusal

/-! # Tools of a call and programs of its commands

A call looks up its tools by the search path before it starts anything, and every command searches again
for its program, from the directory it runs in and with no regard to the home directory. What the lookup
has found is found again where the two mean the same by the element it was found by. An absolute one always
does; a relative one fails a command that runs elsewhere. -/
namespace Provisioning

namespace Process

/-- A search goes on past a path that nothing stands at, or no program. -/
def PassesOver (cause : SystemError) : Prop :=
  cause = .noSuchFile ∨ cause = .notDirectory ∨ cause = .accessDenied

/-- No file has such a path, and a search that comes to it goes no further. -/
def EndsSearch (cause : SystemError) : Prop :=
  cause = .nulInPath ∨ cause = .nameTooLong

/-- A search comes to a program, or it ends before it was through. -/
def IsSettled {α : Type} (found : Except SystemError α) : Prop :=
  (∃ a, found = .ok a) ∨ ∃ cause, EndsSearch cause ∧ found = .error cause

theorem exists_push?_of_passesOver {cause : SystemError} (h : PassesOver cause) (r : Refusal) :
    ∃ r', r.push? cause = some r' := by
  rcases h with rfl | rfl | rfl <;> exact ⟨_, rfl⟩

theorem push?_of_endsSearch {cause : SystemError} (h : EndsSearch cause) (r : Refusal) :
    r.push? cause = none := by
  rcases h with rfl | rfl <;> rfl

/-! ## What is wrong with a path -/

variable {files : FileTree} {directory : Location} {cause : SystemError}

theorem step_error {here : Location} {name : List UInt8} (h : files.step here name = .error cause) :
    PassesOver cause ∨ EndsSearch cause := by
  unfold FileTree.step at h
  split at h
  · cases h
    exact .inl (.inl rfl)
  · cases h
    exact .inl (.inr (.inl rfl))
  · repeat' split at h
    all_goals cases h
    · exact .inr (.inr rfl)
    · exact .inl (.inl rfl)

theorem walk_error {start : Location} {names : List (List UInt8)}
    (h : files.walk start names = .error cause) : PassesOver cause ∨ EndsSearch cause := by
  induction names generalizing start with
  | nil => cases h
  | cons name rest ih =>
    rw [FileTree.walk, List.foldlM_cons] at h
    cases hstep : files.step start name with
    | error e =>
      rw [hstep] at h
      cases h
      exact step_error hstep
    | ok l =>
      rw [hstep] at h
      exact ih h

theorem resolve_error {p : Path} (h : files.resolve directory p = .error cause) :
    PassesOver cause ∨ EndsSearch cause := by
  unfold FileTree.resolve at h
  split_ifs at h
  · cases h
    exact .inr (.inl rfl)
  · cases h
    exact .inl (.inl rfl)
  · cases h
    exact .inr (.inr rfl)
  · exact walk_error h

/-- What can be wrong with a path that has to lead somewhere of a certain kind. -/
theorem checked_error {p : Path} {check : Location → Bool} {unfit : SystemError}
    (hunfit : PassesOver unfit)
    (h : (files.resolve directory p >>= fun l => if check l then .ok l else .error unfit) =
      .error cause) : PassesOver cause ∨ EndsSearch cause := by
  cases hresolve : files.resolve directory p with
  | error e =>
    rw [hresolve] at h
    cases h
    exact resolve_error hresolve
  | ok l =>
    rw [hresolve] at h
    change (if check l then Except.ok l else Except.error unfit) = _ at h
    split at h
    · cases h
    · cases h
      exact .inl hunfit

theorem program_error {p : Path} (h : program files directory p = .error cause) :
    PassesOver cause ∨ EndsSearch cause :=
  checked_error (.inr (.inr rfl)) h

/-- A path that leads to a program by its names may still be one that no file can have. -/
theorem program_isSettled {p : Path} {l : Location} (hne : p.octets ≠ [])
    (hwalk : files.walk (FileTree.base directory p) p.names = .ok l) (hl : files.isProgramAt l = true) :
    IsSettled (program files directory p) := by
  have hempty : p.octets.isEmpty = false := List.isEmpty_eq_false_iff.2 hne
  unfold program FileTree.resolve
  rw [hempty, hwalk]
  split_ifs with hnul hnil hlong
  · exact .inr ⟨_, .inl rfl, rfl⟩
  · cases hnil
  · exact .inr ⟨_, .inr rfl, rfl⟩
  · exact .inl ⟨l, if_pos hl⟩

/-! ## Searches -/

/-- No search passes over a path that leads to a program. -/
theorem firstProgram_isSettled {paths : List Path} {p : Path} (r : Refusal) (hmem : p ∈ paths)
    (h : IsSettled (program files directory p)) : IsSettled (firstProgram files directory paths r) := by
  induction paths generalizing r with
  | nil => cases hmem
  | cons first rest ih =>
    unfold firstProgram
    cases hfirst : program files directory first with
    | ok l => exact .inl ⟨l, rfl⟩
    | error e =>
      rcases program_error hfirst with hpasses | hends
      · obtain ⟨r', hr'⟩ := exists_push?_of_passesOver hpasses r
        simp only [hr']
        rcases List.mem_cons.1 hmem with rfl | hin
        · obtain ⟨l, hl⟩ | ⟨cause, hends, hcause⟩ := h
          · cases hfirst.symm.trans hl
          · cases hfirst.symm.trans hcause
            rw [push?_of_endsSearch hends] at hr'
            cases hr'
        · exact ih r' hin
      · exact .inr ⟨e, hends, by simp only [push?_of_endsSearch hends]⟩

theorem mem_tried {elements : List Path} {e : Path} (hmem : e ∈ elements)
    (h : e.octets.length < FileTree.pathLimit) : e ∈ tried elements := by
  induction elements with
  | nil => cases hmem
  | cons first rest ih =>
    unfold tried
    rcases List.mem_cons.1 hmem with rfl | hin
    · rw [if_pos h]
      exact List.mem_cons_self
    · have hrest : rest.isEmpty = false := List.isEmpty_eq_false_iff.2 (List.ne_nil_of_mem hin)
      split
      · exact List.mem_cons_of_mem _ (ih hin)
      · rw [hrest]
        exact List.mem_cons_of_mem _ (ih hin)

theorem findProgram_isSettled {p : SearchPath} {e : Path} {name : String} (hmem : e ∈ p.elements)
    (hlength : e.octets.length < FileTree.pathLimit)
    (h : IsSettled (program files directory (e.push (Path.ofString name).octets))) :
    IsSettled (findProgram files (some p) directory name) :=
  firstProgram_isSettled {} (List.mem_map_of_mem (mem_tried hmem hlength)) h

end Process

/-! ## The lookup and the search -/

theorem SearchPath.expandHome_of_isAbsolute (home : Option Path) {e : Path} (h : e.isAbsolute = true) :
    expandHome home e = e := by
  obtain ⟨rest, hrest⟩ := List.head?_eq_some_iff.1 (beq_iff_eq.1 h)
  have hnames : e.names = [] :: rest.splitOn Path.slash := by
    rw [Path.names, hrest, List.splitOn_cons_eq_if_modifyHead, if_pos (beq_self_eq_true _)]
  unfold expandHome
  split
  · next first others hfirst =>
    rw [hnames] at hfirst
    cases hfirst
    exact if_neg (by decide)
  · rfl

/-- The name of a required tool is one name, and no dot. -/
theorem Tool.name_isStep {tool : Tool} (h : tool ∈ required) :
    Path.slash ∉ (Path.ofString tool.name).octets ∧
      Path.isStep (Path.ofString tool.name).octets = true := by
  have hall : ∀ tool ∈ required, Path.slash ∉ (Path.ofString tool.name).octets ∧
      Path.isStep (Path.ofString tool.name).octets = true := by decide +kernel
  exact hall tool h

variable {σ : Type}

namespace Machine

/-- The lookup finds a tool by an element of the search path, or would if it came to it. -/
def FoundBy (m : Machine σ) (s : σ) (tool : Tool) (e : Path) : Prop :=
  ∃ p, m.searchPath = some p ∧ e ∈ p.elements ∧ (m.files s).isProgram m.directory
    (SearchPath.candidate m.home m.directory.path e tool.name) = true

/-- An element of the search path means the same to the lookup as to a command in some directory. An
absolute one always does. A relative one does where the program itself runs, as long as its path leads
there, the element does not stand for a home directory and it is not too long for any path. -/
inductive ReadsAlike (m : Machine σ) (s : σ) (directory : Location) (e : Path) : Prop
  | absolute : e.isAbsolute = true → ReadsAlike m s directory e
  | relative : directory = m.directory →
      (m.files s).resolve [] m.directory.path = .ok m.directory →
      SearchPath.expandHome m.home e = e → e.octets.length < FileTree.pathLimit →
      ReadsAlike m s directory e

variable {m : Machine σ} {s : σ} {tool : Tool}

theorem HasTools.exists_foundBy (h : m.HasTools s) (htool : tool ∈ Tool.required) :
    ∃ e, m.FoundBy s tool e := by
  obtain ⟨p, file, hp, hfile⟩ := h tool htool
  have hprogram := List.find?_some hfile
  obtain ⟨e, he, rfl⟩ := List.mem_map.1 (List.mem_of_find?_eq_some hfile)
  exact ⟨e, p, hp, he, hprogram⟩

/-- Where the lookup has found a tool by an element that means the same to both, the search comes to it. -/
theorem ReadsAlike.program_isSettled {directory : Location} {e : Path} {name : List UInt8}
    (halike : m.ReadsAlike s directory e) (hslash : Path.slash ∉ name) (hstep : Path.isStep name = true)
    (h : (m.files s).isProgram m.directory (SearchPath.seenFrom m.directory.path
      ((SearchPath.expandHome m.home e).push name)) = true) :
    e.octets.length < FileTree.pathLimit ∧
      Process.IsSettled (Process.program (m.files s) directory (e.push name)) := by
  obtain ⟨l, hresolve, hl⟩ := (FileTree.isProgram_eq_true_iff ..).1 h
  have hne := e.push_octets_ne_nil hstep
  cases halike with
  | absolute habsolute =>
    have hpushed := Path.isAbsolute_push habsolute name
    rw [SearchPath.expandHome_of_isAbsolute _ habsolute, SearchPath.seenFrom, if_pos hpushed,
      FileTree.resolve_eq_ok_iff] at hresolve
    obtain ⟨⟨-, -, hlength⟩, hwalk⟩ := hresolve
    rw [FileTree.base, if_pos hpushed] at hwalk
    refine ⟨Nat.lt_of_le_of_lt (e.push_octets_length_le name) hlength,
      Process.program_isSettled hne ?_ hl⟩
    rw [FileTree.base, if_pos hpushed]
    exact hwalk
  | relative hdirectory hplace hhome hlength =>
    subst hdirectory
    rw [hhome] at hresolve
    exact ⟨hlength, Process.program_isSettled hne
      (FileTree.walk_of_resolve_seenFrom hplace hslash hstep hresolve) hl⟩

/-- A tool that the lookup finds is found again by an element that means the same to both. -/
theorem FoundBy.findProgram_isSettled {directory : Location} {e : Path} (hfound : m.FoundBy s tool e)
    (htool : tool ∈ Tool.required) (halike : m.ReadsAlike s directory e) :
    Process.IsSettled (Process.findProgram (m.files s) m.searchPath directory tool.name) := by
  obtain ⟨p, hp, he, hprogram⟩ := hfound
  obtain ⟨hslash, hstep⟩ := Tool.name_isStep htool
  obtain ⟨hlength, hsettled⟩ := halike.program_isSettled hslash hstep hprogram
  rw [hp]
  exact Process.findProgram_isSettled he hlength hsettled

theorem exists_directoryOf {step : Step} (h : ¬ step.LacksDirectory m.host s) :
    ∃ directory, m.directoryOf s step.command = .ok directory := by
  unfold directoryOf
  cases hd : step.command.directory with
  | none => exact ⟨_, rfl⟩
  | some d =>
    refine (FileTree.isDirectory_eq_true_iff ..).1 ?_
    rw [← Bool.not_eq_false]
    exact fun hno => h ⟨d, hd, hno⟩

end Machine

/-! ## A call -/

namespace Program

variable {m : Machine σ} {s : σ} {called : Path} {words : List Word}

theorem isReady_of_calls_ne_nil (h : (call m s called words).calls ≠ []) :
    ∃ o project layout, IsReady m s words o project layout := by
  by_contra hnone
  obtain ⟨ending, printed, hrefuses⟩ := exists_refuses called fun o project layout hready =>
    hnone ⟨o, project, layout, hready⟩
  obtain ⟨events, hcall⟩ := call_of_refuses hrefuses
  exact h (by rw [hcall])

/-- A command is handed over once everything is in order, and then its directory is there. -/
theorem directoryOf_calls {k : Nat} {c : Command}
    (h : (call m s called words).calls[k]? = some c) :
    m.HasTools s ∧ ∃ directory,
      m.directoryOf (m.host.after s ((call m s called words).calls.take k)) c = .ok directory := by
  have hne : (call m s called words).calls ≠ [] := by
    intro hnil
    rw [hnil] at h
    cases h
  obtain ⟨o, project, layout, hready⟩ := isReady_of_calls_ne_nil hne
  refine ⟨hready.tools, ?_⟩
  have hcalls := (call_of_isReady called hready).1
  split at hcalls
  · exact absurd hcalls hne
  · rw [hcalls] at h ⊢
    obtain ⟨step, -, rfl, hdir⟩ := runSteps_calls_getElem? h
    exact Machine.exists_directoryOf hdir

/-- As long as the file tree stays as it is, what the lookup found holds for every command of the call that
starts a required tool and has no NUL: its directory is there, and by an element of the search path that
means the same to the lookup and to the command its program is found again, unless a path that no file can
have ends the search before. -/
theorem call_finds_tools_again (m : Machine σ) (s : σ) (called : Path) (words : List Word)
    (hkept : ∀ k, m.files (m.host.after s ((call m s called words).calls.take k)) = m.files s)
    (k : Nat) (c : Command) (tool : Tool) (hcall : (call m s called words).calls[k]? = some c)
    (htool : tool ∈ Tool.required) (hprogram : c.program = tool.name) (hfree : c.IsNulFree) :
    let before := m.host.after s ((call m s called words).calls.take k)
    ∃ directory, m.directoryOf before c = .ok directory ∧ (∃ e, m.FoundBy s tool e) ∧
      ∀ e, m.FoundBy s tool e → m.ReadsAlike s directory e →
        (∃ file, m.prepare before c = .ok (file, directory)) ∨
          ∃ cause, Process.EndsSearch cause ∧ m.prepare before c = .error cause := by
  intro before
  obtain ⟨htools, directory, hdirectory⟩ := directoryOf_calls hcall
  refine ⟨directory, hdirectory, htools.exists_foundBy htool, fun e hfound halike => ?_⟩
  rw [Machine.prepare_of_isNulFree hfree hdirectory, hprogram, hkept]
  obtain ⟨file, hfile⟩ | ⟨cause, hends, hcause⟩ := hfound.findProgram_isSettled htool halike
  · exact .inl ⟨file, by rw [hfile]; rfl⟩
  · exact .inr ⟨cause, hends, by rw [hcause]; rfl⟩

/-! ## A relative element -/

/-- The machine with everything in place, but with a search path of its own. -/
def installedAlong (searchPath : String) : Machine Unit :=
  { Machine.installed (.ok ⟨some 0⟩) with searchPath := some ⟨(Path.ofString searchPath).octets⟩ }

theorem files_installedAlong (searchPath : String) (s t : Unit) :
    (installedAlong searchPath).files s = (installedAlong searchPath).files t := rfl

/-- The command that makes the first table of the standard layout. -/
def firstTableCommand : Command :=
  (Plan.tableStepAt Layout.standard ⟨"swarm-dev", by decide⟩ 0 Layout.standard.tables[0]).command

theorem firstTableCommand_isNulFree : firstTableCommand.IsNulFree :=
  Plan.command_isNulFree Layout.standard_isNulFree (Plan.steps_getElem?_table (i := 0) rfl)

/-- The relative element is of no use in the schema directory, but the absolute one behind it is. -/
theorem call_finds_tools_again_behind_relative :
    let m := installedAlong "bin:/bin"
    let called := Path.ofString Options.programName
    let words := [Options.word "swarm-dev"]
    (call m () called words).calls[3]? = some firstTableCommand ∧
      ∃ directory, m.directoryOf () firstTableCommand = .ok directory ∧
        ((∃ file, m.prepare () firstTableCommand = .ok (file, directory)) ∨
          ∃ cause, Process.EndsSearch cause ∧ m.prepare () firstTableCommand = .error cause) := by
  intro m called words
  have hcall : (call m () called words).calls[3]? = some firstTableCommand := by decide +kernel
  let tool : Tool := ⟨"bqschemaupdater", "Chrome's infra repository",
    "go get -u go.chromium.org/luci/tools/cmd/bqschemaupdater"⟩
  have htool : tool ∈ Tool.required := by decide
  have hfound : m.FoundBy () tool (Path.ofString "/bin") := by
    refine ⟨_, rfl, ?_, ?_⟩ <;> decide +kernel
  obtain ⟨directory, hdirectory, -, hagain⟩ := call_finds_tools_again m () called words
    (fun _ => files_installedAlong _ _ _) 3 firstTableCommand tool hcall htool rfl firstTableCommand_isNulFree
  have hbefore : m.host.after () ((call m () called words).calls.take 3) = () := Subsingleton.elim _ _
  rw [hbefore] at hdirectory hagain
  exact ⟨hcall, directory, hdirectory, hagain _ hfound (.absolute rfl)⟩

/-- A relative element leads the lookup to both tools, but no command in the schema directory to its
program, and the call ends there. -/
theorem call_loses_relative_tool :
    let m := installedAlong "bin"
    let outcome := call m () (Path.ofString Options.programName) [Options.word "swarm-dev"]
    m.HasTools () ∧ (∀ k, m.files (m.host.after () (outcome.calls.take k)) = m.files ()) ∧
      outcome.calls[3]? = some firstTableCommand ∧ firstTableCommand.program = "bqschemaupdater" ∧
      firstTableCommand.IsNulFree ∧ m.prepare () firstTableCommand = .error .noSuchFile ∧
      outcome.ending = .failed (.notStarted firstTableCommand.line .noSuchFile) := by
  intro m outcome
  have htools : m.HasTools () := (m.hasTools_iff ()).2 (by decide +kernel)
  have hcall : outcome.calls[3]? = some firstTableCommand := by decide +kernel
  have hprepare : m.prepare () firstTableCommand = .error .noSuchFile := by decide +kernel
  have hending : outcome.ending = .failed (.notStarted firstTableCommand.line .noSuchFile) := by
    decide +kernel
  exact ⟨htools, fun _ => files_installedAlong _ _ _, hcall, rfl, firstTableCommand_isNulFree, hprepare,
    hending⟩

end Program

end Provisioning
