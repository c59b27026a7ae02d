import Provisioning.Proofs.Layout.Overrides
import Provisioning.Proofs.Program.Printed
import Provisioning.Proofs.Program.ToolCheck

/-! # Which commands can be started as they are shown

A word that holds a NUL can neither be quoted for a shell nor be passed to a process. Validation keeps the
NUL out of every name, and with it out of every cleanup, but it asks nothing of the other texts of a layout.
A NUL in one of those comes into the plan, and the run ends at its command, whatever was started before. -/
namespace Provisioning

/-! ## Commands -/

namespace Process

variable {files : FileTree} {directory : Location} {cause : SystemError}

theorem ne_nulInWord (h : PassesOver cause ∨ EndsSearch cause) : cause ≠ .nulInWord := by
  rcases h with (rfl | rfl | rfl) | (rfl | rfl) <;> decide

theorem passesOver_of_push? {r r' : Refusal} (h : r.push? cause = some r') : PassesOver r'.last := by
  unfold Refusal.push? at h
  split_ifs at h with hpassed hdenied
  · cases h
    exact hpassed.imp_right .inl
  · cases h
    exact .inr (.inr hdenied)

theorem firstProgram_error {paths : List Path} {r : Refusal}
    (h : firstProgram files directory paths r = .error cause) (hlast : PassesOver r.last) :
    PassesOver cause ∨ EndsSearch cause := by
  induction paths generalizing r with
  | nil =>
    cases h
    unfold Refusal.cause
    split
    · exact .inl (.inr (.inr rfl))
    · exact .inl hlast
  | cons first rest ih =>
    unfold firstProgram at h
    cases hfirst : program files directory first with
    | ok l =>
      rw [hfirst] at h
      cases h
    | error e =>
      simp only [hfirst] at h
      split at h
      · next r' hpush => exact ih h (passesOver_of_push? hpush)
      · cases h
        exact program_error hfirst

theorem enter_error {p : Path} (h : files.enter directory p = .error cause) :
    PassesOver cause ∨ EndsSearch cause :=
  checked_error (.inr (.inl rfl)) h

end Process

variable {σ : Type}

namespace Machine

theorem prepare_of_nul {c : Command} (m : Machine σ) (s : σ) (h : ¬ c.IsNulFree) :
    m.prepare s c = .error .nulInWord := by
  rw [c.isNulFree_iff, Bool.not_eq_false] at h
  rw [prepare, if_pos h]
  rfl

theorem directoryOf_error {m : Machine σ} {s : σ} {c : Command} {cause : SystemError}
    (h : m.directoryOf s c = .error cause) : Process.PassesOver cause ∨ Process.EndsSearch cause := by
  unfold directoryOf at h
  split at h
  · exact Process.enter_error h
  · cases h

/-- Without a NUL in its words, whatever else keeps a command from being started is no fault of theirs. -/
theorem prepare_ne_nulInWord {c : Command} (m : Machine σ) (s : σ) (h : c.IsNulFree) :
    m.prepare s c ≠ .error .nulInWord := by
  intro hprepare
  cases hdirectory : m.directoryOf s c with
  | ok directory =>
    rw [prepare_of_isNulFree h hdirectory] at hprepare
    cases hfind : Process.findProgram (m.files s) m.searchPath directory c.program with
    | ok file =>
      rw [hfind] at hprepare
      cases hprepare
    | error cause =>
      rw [hfind] at hprepare
      cases hprepare
      exact Process.ne_nulInWord (Process.firstProgram_error hfind (.inl rfl)) rfl
  | error cause =>
    rw [prepare, c.isNulFree_iff.1 h, hdirectory] at hprepare
    cases hprepare
    exact Process.ne_nulInWord (directoryOf_error hdirectory) rfl

end Machine

/-- A command can be started as it is shown: a shell reads its words from its line, and no machine refuses
to pass them on. -/
structure Command.IsPassable (c : Command) : Prop where
  read : ∃ reading, Shell.read c.line.toList = some reading ∧
    reading.words = c.words.map String.toList
  passed : ∀ {σ : Type} (m : Machine σ) (s : σ), m.prepare s c ≠ .error .nulInWord

theorem Command.isPassable_iff (c : Command) : c.IsPassable ↔ c.IsNulFree := by
  constructor
  · intro h
    by_contra hnul
    exact h.passed (Machine.installed (.ok ⟨some 0⟩)) () (Machine.prepare_of_nul _ _ hnul)
  · intro h
    exact ⟨⟨_, read_line_eq h, rfl⟩, fun m s => m.prepare_ne_nulInWord s h⟩

/-! ## Layouts and their plans -/

/-- The texts of a layout that may hold any character. -/
def Layout.freeTexts (layout : Layout) : List String :=
  [layout.location, layout.description, layout.partitionExpiration] ++
    layout.tables.flatMap fun table => [table.message, table.partitioningField]

theorem Layout.IsValid.isNulFree {layout : Layout} (hvalid : layout.IsValid)
    (h : ∀ text ∈ layout.freeTexts, '\x00' ∉ text.toList) : layout.IsNulFree where
  dataset := not_mem_of_isIdentifier hvalid.dataset (by decide)
  location := h _ (by simp [freeTexts])
  description := h _ (by simp [freeTexts])
  partitionExpiration := h _ (by simp [freeTexts])
  tables table htable :=
    have hmem : ∀ text ∈ [table.message, table.partitioningField], text ∈ layout.freeTexts :=
      fun _ htext => List.mem_append_right _ (List.mem_flatMap.2 ⟨table, htable, htext⟩)
    ⟨h _ (hmem _ (by simp)), not_mem_of_isIdentifier (hvalid.tableNames table htable) (by decide),
      h _ (hmem _ (by simp))⟩
  viewName := not_mem_of_isIdentifier hvalid.viewName (by decide)
  viewSource := not_mem_of_isIdentifier hvalid.viewSource (by decide)

namespace Plan

variable {layout : Layout} {project : ProjectId}

/-- Every free text of a layout that has tables ends a word of its plan. -/
theorem exists_word_of_freeText (htables : layout.tables ≠ []) {text : String}
    (h : text ∈ layout.freeTexts) (project : ProjectId) :
    ∃ step ∈ (ofLayout layout project).steps, ∃ before, before ++ text ∈ step.command.words := by
  -- But for the location, a free text is a word of its own.
  have hword : ∀ {k n : Nat} {step : Step}, (ofLayout layout project).steps[k]? = some step →
      step.command.words[n]? = some text →
      ∃ step ∈ (ofLayout layout project).steps, ∃ before, before ++ text ∈ step.command.words := by
    intro k n step hstep hn
    refine ⟨step, List.mem_of_getElem? hstep, "", ?_⟩
    rw [String.empty_append]
    exact List.mem_of_getElem? hn
  rcases List.mem_append.1 h with hfixed | hflat
  · simp only [List.mem_cons, List.not_mem_nil, or_false] at hfixed
    rcases hfixed with rfl | rfl | rfl
    · exact ⟨_, List.mem_of_getElem? (i := 2) rfl, "--location=", List.mem_of_getElem? (i := 1) rfl⟩
    · exact hword (k := 2) (n := 5) rfl rfl
    · obtain ⟨table, rest, hfirst⟩ := List.exists_cons_of_ne_nil htables
      have htable : layout.tables[0]? = some table := by rw [hfirst]; rfl
      exact hword (n := 9) (steps_getElem?_table htable) rfl
  · obtain ⟨table, hmem, htext⟩ := List.mem_flatMap.1 hflat
    obtain ⟨i, htable⟩ := List.mem_iff_getElem?.1 hmem
    simp only [List.mem_cons, List.not_mem_nil, or_false] at htext
    rcases htext with rfl | rfl
    · exact hword (n := 3) (steps_getElem?_table htable) rfl
    · exact hword (n := 7) (steps_getElem?_table htable) rfl

theorem commands_isNulFree_iff (hvalid : layout.IsValid) (project : ProjectId) :
    (∀ step ∈ (ofLayout layout project).steps, step.command.IsNulFree) ↔
      ∀ text ∈ layout.freeTexts, '\x00' ∉ text.toList := by
  constructor
  · intro h text htext hnul
    obtain ⟨step, hstep, before, hword⟩ := exists_word_of_freeText hvalid.tables_ne_nil htext project
    exact h step hstep _ hword (by simp [hnul])
  · intro h step hstep
    obtain ⟨k, hk⟩ := List.mem_iff_getElem?.1 hstep
    exact command_isNulFree (hvalid.isNulFree h) hk

theorem removal_isNulFree (project : ProjectId) {dataset name : String}
    (hdataset : Layout.isIdentifier dataset = true) (hname : Layout.isIdentifier name = true) :
    (removal project dataset name).IsNulFree := by
  have hresource : '\x00' ∉ (resource project dataset name).toList :=
    project.nul_not_mem_qualified (not_mem_ofList (by decide))
      (Layout.not_mem_of_isIdentifier hdataset (by decide))
      (Layout.not_mem_of_isIdentifier hname (by decide))
  unfold Command.IsNulFree Command.words removal
  simp only [List.forall_mem_cons]
  exact ⟨not_mem_ofList (by decide), not_mem_ofList (by decide), hresource, List.forall_mem_nil _⟩

theorem cleanup_isNulFree (hvalid : layout.IsValid) {step : Step}
    (hstep : step ∈ (ofLayout layout project).steps) {cleanup : Command}
    (h : step.onFailure.cleanup? = some cleanup) : cleanup.IsNulFree := by
  obtain ⟨k, hk⟩ := List.mem_iff_getElem?.1 hstep
  rcases step_cases hk with ⟨-, rfl⟩ | ⟨-, rfl⟩ | ⟨-, rfl⟩ | ⟨i, table, -, htable, rfl⟩ | ⟨-, rfl⟩
  · cases h
  · cases h
  · cases h
  · cases h
    exact removal_isNulFree project hvalid.dataset
      (hvalid.tableNames table (List.mem_of_getElem? htable))
  · cases h
    exact removal_isNulFree project hvalid.dataset hvalid.viewName

/-- No run comes past a command that holds a NUL. -/
theorem run_ne_ok_of_nul (m : Machine σ) (s : σ) {plan : Plan} {step : Step} (hstep : step ∈ plan.steps)
    (h : ¬ step.command.IsNulFree) (report : Report) : (plan.run m.host s).result ≠ .ok report := by
  intro hok
  obtain ⟨k, hk⟩ := List.mem_iff_getElem?.1 hstep
  refine (plan.run_eq_ok_iff m.host s).1 ⟨report, hok⟩ k ⟨step, hk, .inr (.inl ⟨.nulInWord, ?_⟩)⟩
  have hprepare := m.prepare_of_nul (stateBefore m.host s plan.steps k) h
  change (m.start (stateBefore m.host s plan.steps k) step.command).reply = .error .nulInWord
  rw [Machine.start, hprepare]

/-- Every cleanup of the plan for a layout from a file can be started as it is shown, and every command can
exactly if no free text of the layout holds a NUL. No run gets past a NUL. -/
theorem isPassable_iff_of_load {read : Path → Except SystemError (List UInt8)} {path : Path}
    {layout : Layout} (h : Layout.load read path = .ok layout) (project : ProjectId) :
    (∀ step ∈ (ofLayout layout project).steps, ∀ cleanup, step.onFailure.cleanup? = some cleanup →
      cleanup.IsPassable) ∧
    ((∀ step ∈ (ofLayout layout project).steps, step.command.IsPassable) ↔
      ∀ text ∈ layout.freeTexts, '\x00' ∉ text.toList) ∧
    ∀ {σ : Type} (m : Machine σ) (s : σ) (text : String), text ∈ layout.freeTexts →
      '\x00' ∈ text.toList → ∀ report, ((ofLayout layout project).run m.host s).result ≠ .ok report := by
  have hvalid := Layout.isValid_of_load h
  refine ⟨fun step hstep cleanup hcleanup => ?_, ?_, ?_⟩
  · exact cleanup.isPassable_iff.2 (cleanup_isNulFree hvalid hstep hcleanup)
  · simp only [Command.isPassable_iff]
    exact commands_isNulFree_iff hvalid project
  · intro σ m s text htext hnul
    obtain ⟨step, hstep, before, hword⟩ := exists_word_of_freeText hvalid.tables_ne_nil htext project
    exact run_ne_ok_of_nul m s hstep fun hfree => hfree _ hword (by simp [hnul])

/-- A description with quotes and an expansion in it can be shown and passed on. -/
theorem isPassable_iff_of_load_quotes :
    let layout := { Layout.standard with description := "it's \"new\", $1 each" }
    let read : Path → Except SystemError (List UInt8) := fun _ =>
      .ok (Text.Utf8.encode "description = \"it's \\\"new\\\", $1 each\"\n".toList)
    Layout.load read (Path.ofString "bq.toml") = .ok layout ∧
      (datasetStep layout ⟨"swarm-dev", by decide⟩).command.IsPassable := by
  intro layout read
  have hload : Layout.load read (Path.ofString "bq.toml") = .ok layout := by
    refine (Layout.load_octets { description := "it's \"new\", $1 each" } Layout.Format.plain ?_).trans rfl
    exact congrArg (fun text => Except.ok (Text.Utf8.encode text)) (by decide +kernel)
  have hfree : ∀ text ∈ layout.freeTexts, '\x00' ∉ text.toList := by decide +kernel
  obtain ⟨-, hcommands, -⟩ := isPassable_iff_of_load hload ⟨"swarm-dev", by decide⟩
  exact ⟨hload, hcommands.2 hfree _ (List.mem_of_getElem? (i := 2) rfl)⟩

end Plan

namespace Program

/-- The machine with everything in place, and a file that gives a description with a NUL in it. -/
def installedWithNul : Machine Unit :=
  { Machine.installed (.ok ⟨some 0⟩) with
    files := fun _ => FileTree.installed.writeFile [] (Path.ofString "bq.toml")
      (Text.Utf8.encode "description = \"Swarming\\u0000 statistics\"\n".toList) false }

/-- A description with a NUL in it passes validation. The command that makes the dataset is then shown
without quotes, so that a shell reads other words from it, and the call fails at it behind two commands that
were started. -/
theorem call_fails_at_nul :
    let layout := { Layout.standard with description := "Swarming\x00 statistics" }
    let project : ProjectId := ⟨"swarm-dev", by decide⟩
    let command := (Plan.datasetStep layout project).command
    let outcome := call installedWithNul () (Path.ofString Options.programName)
      (["--config", "bq.toml", "swarm-dev"].map Options.word)
    Layout.load (installedWithNul.read ()) (Path.ofString "bq.toml") = .ok layout ∧
      ¬ command.IsNulFree ∧
      command.line =
        "bq --location=US mk --dataset --description Swarming\x00 statistics swarm-dev:swarming" ∧
      (Shell.read command.line.toList).map Shell.Reading.words ≠ some (command.words.map String.toList) ∧
      outcome.calls = [(Plan.enableStep project).command, (Plan.grantStep project).command, command] ∧
      installedWithNul.host.started () outcome.calls =
        [(Plan.enableStep project).command, (Plan.grantStep project).command] ∧
      outcome.ending = .failed (.notStarted command.line .nulInWord) := by
  intro layout project command outcome
  have hfile : installedWithNul.read () (Path.ofString "bq.toml") =
      .ok (Text.Utf8.encode "description = \"Swarming\\u0000 statistics\"\n".toList) := by
    decide +kernel
  have hload : Layout.load (installedWithNul.read ()) (Path.ofString "bq.toml") = .ok layout := by
    refine (Layout.load_octets { description := "Swarming\x00 statistics" } Layout.Format.plain
      (hfile.trans ?_)).trans rfl
    exact congrArg (fun text => Except.ok (Text.Utf8.encode text)) (by decide +kernel)
  have hready : IsReady installedWithNul () (["--config", "bq.toml", "swarm-dev"].map Options.word)
      ⟨some (Path.ofString "bq.toml"), none, false, "swarm-dev"⟩ project layout :=
    { tools := (Machine.hasTools_iff _ _).2 (by decide +kernel)
      options := by decide +kernel
      project := project.parse?_text
      layout := ⟨layout, hload, rfl⟩ }
  have hcalls : outcome.calls =
      [(Plan.enableStep project).command, (Plan.grantStep project).command, command] :=
    (call_of_isReady _ hready).1.trans (by decide +kernel)
  have hstarted : installedWithNul.host.started ()
      [(Plan.enableStep project).command, (Plan.grantStep project).command, command] =
        [(Plan.enableStep project).command, (Plan.grantStep project).command] := by
    decide +kernel
  have hending : outcome.ending = .failed (.notStarted command.line .nulInWord) :=
    (ending_of_isReady _ hready).trans (by decide +kernel)
  refine ⟨hload, ?_, by decide +kernel, by decide +kernel, hcalls, ?_, hending⟩
  · intro hfree
    exact hfree layout.description (List.mem_of_getElem? (i := 5) rfl) (by decide +kernel)
  · rw [hcalls, hstarted]

end Program

end Provisioning
