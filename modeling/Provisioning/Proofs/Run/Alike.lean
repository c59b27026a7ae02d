import Provisioning.Process
import Provisioning.Proofs.Run.History

/-! # Machines that act alike

Two machines act alike if nothing that a run looks at tells them apart: the same directories and programs
stand in the same places, and a command has the same outcome on both and leaves them alike. What stands in
their files may differ. Then the same steps come to the same, as one step keeps two such machines alike. -/
namespace Provisioning

variable {σ τ α : Type} {R : σ → τ → Prop}

namespace Host

/-- From related states the same directories are there and a command has the same outcome, and it leaves
related states behind. -/
structure ActsAs (R : σ → τ → Prop) (h : Host σ) (h' : Host τ) : Prop where
  isDirectory : ∀ s t, R s t → ∀ p, h.isDirectory s p = h'.isDirectory t p
  reply : ∀ s t, R s t → ∀ c, (h.start s c).reply = (h'.start t c).reply
  events : ∀ s t, R s t → ∀ c, (h.start s c).events = (h'.start t c).events
  next : ∀ s t, R s t → ∀ c, R (h.start s c).next (h'.start t c).next

variable {h : Host σ} {h' : Host τ} {s : σ} {t : τ}

theorem ActsAs.logged (hacts : h.ActsAs R h') : h.logged.ActsAs R h'.logged where
  isDirectory := hacts.isDirectory
  reply := hacts.reply
  events s t hst c := congrArg (_ :: ·) (hacts.events s t hst c)
  next := hacts.next

theorem ActsAs.preview (hacts : h.ActsAs R h') :
    (Host.preview h.isDirectory).ActsAs R (Host.preview h'.isDirectory) where
  isDirectory := hacts.isDirectory
  reply _ _ _ _ := rfl
  events _ _ _ _ := rfl
  next _ _ hst _ := hst

/-- The same commands can be started on both. -/
theorem ActsAs.started (hacts : h.ActsAs R h') (hst : R s t) (commands : List Command) :
    h.started s commands = h'.started t commands := by
  induction commands generalizing s t with
  | nil => rfl
  | cons c rest ih =>
    have hrest := ih (hacts.next s t hst c)
    cases hreply : (h'.start t c).reply with
    | ok status => rw [started_of_ok ((hacts.reply s t hst c).trans hreply), started_of_ok hreply, hrest]
    | error cause =>
      rw [started_of_error ((hacts.reply s t hst c).trans hreply), started_of_error hreply, hrest]

end Host

/-! ## Runs -/

/-- The same was done, and the states that are left are related. -/
structure Run.SameAs (R : σ → τ → Prop) (r : Run σ α) (r' : Run τ α) : Prop where
  result : r.result = r'.result
  events : r.events = r'.events
  calls : r.calls = r'.calls
  final : R r.final r'.final

section
variable {host : Host σ} {host' : Host τ} {s : σ} {t : τ}

/-- One step comes to the same, whether its directory is missing, it cannot be started or it ends. -/
theorem Step.run_sameAs (hacts : host.ActsAs R host') (hst : R s t) (step : Step) :
    (step.run host s).SameAs R (step.run host' t) := by
  have hmissing : step.missingDirectory? host s = step.missingDirectory? host' t := by
    simp only [missingDirectory?, hacts.isDirectory s t hst]
  have hreply := hacts.reply s t hst step.command
  have hevents := hacts.events s t hst step.command
  have hnext := hacts.next s t hst step.command
  cases hdir : step.missingDirectory? host' t with
  | some d =>
    simp only [run, hmissing, hdir]
    exact ⟨rfl, rfl, rfl, hst⟩
  | none =>
    cases hends : (host'.start t step.command).reply <;>
      simp only [run, hmissing, hdir, hreply, hevents, hends] <;> exact ⟨rfl, rfl, rfl, hnext⟩

/-- Steps come to the same: as long as none stops the run, the next one finds the machines alike again. -/
theorem runSteps_sameAs (hacts : host.ActsAs R host') (hst : R s t) (steps : List Step) :
    (runSteps host steps s).SameAs R (runSteps host' steps t) := by
  induction steps generalizing s t with
  | nil => exact ⟨rfl, rfl, rfl, hst⟩
  | cons step rest ih =>
    obtain ⟨hresult, hevents, hcalls, hfinal⟩ := step.run_sameAs hacts hst
    cases hends : (step.run host' t).result with
    | error failure =>
      simp only [runSteps, hresult, hends]
      exact ⟨rfl, hevents, hcalls, hfinal⟩
    | ok report =>
      obtain ⟨hlater, hlaterEvents, hlaterCalls, hlaterFinal⟩ := ih hfinal
      simp only [runSteps, hresult, hends, hevents, hcalls, hlater, hlaterEvents, hlaterCalls]
      exact ⟨rfl, rfl, rfl, hlaterFinal⟩

theorem Plan.run_sameAs (hacts : host.ActsAs R host') (hst : R s t) (plan : Plan) :
    (plan.run host s).SameAs R (plan.run host' t) := by
  obtain ⟨hresult, hevents, hcalls, hfinal⟩ := runSteps_sameAs hacts hst plan.steps
  exact ⟨congrArg (Except.map Report.mk) hresult, congrArg (_ :: ·) hevents, hcalls, hfinal⟩

end

/-! ## File trees and machines -/

/-- What stands somewhere, but for the content of a file. -/
def Entry.kind : Entry → Entry
  | .directory => .directory
  | .file _ executable => .file [] executable

/-- Directories and files stand in the same places, whatever is in the files. -/
def FileTree.Alike (t u : FileTree) : Prop :=
  ∀ l, (t.find? l).map Entry.kind = (u.find? l).map Entry.kind

namespace FileTree

variable {t u : FileTree}

/-- What is written to a file makes no other difference. -/
theorem writeFile_alike (t : FileTree) (directory : Location) (p : Path) (content content' : List UInt8)
    (executable : Bool) :
    (t.writeFile directory p content executable).Alike (t.writeFile directory p content' executable) := by
  intro l
  by_cases hroot : l = []
  · rw [hroot, find?_root, find?_root]
  · by_cases hl : l = locate directory p
    · subst hl
      rw [writeFile, writeFile, find?_put_self _ _ _ hroot, find?_put_self _ _ _ hroot]
      rfl
    · have hother : (l == locate directory p) = false := beq_eq_false_iff_ne.2 hl
      simp only [writeFile, find?, put, List.lookup_cons, hother]

theorem Alike.cases (h : t.Alike u) (l : Location) :
    t.find? l = none ∧ u.find? l = none ∨
    t.find? l = some .directory ∧ u.find? l = some .directory ∨
    ∃ content content' executable, t.find? l = some (.file content executable) ∧
      u.find? l = some (.file content' executable) := by
  have hl := h l
  rcases ht : t.find? l with - | (- | ⟨content, executable⟩) <;>
    rcases hu : u.find? l with - | (- | ⟨content', executable'⟩) <;>
      simp_all [Entry.kind]

theorem Alike.isDirectoryAt (h : t.Alike u) : t.isDirectoryAt = u.isDirectoryAt := by
  funext l
  have hfile : ∀ content executable, (some (Entry.file content executable) == some .directory) = false :=
    fun _ _ => rfl
  rcases h.cases l with ⟨ht, hu⟩ | ⟨ht, hu⟩ | ⟨_, _, _, ht, hu⟩ <;>
    simp only [FileTree.isDirectoryAt, ht, hu, hfile]

theorem Alike.isProgramAt (h : t.Alike u) : t.isProgramAt = u.isProgramAt := by
  funext l
  rcases h.cases l with ⟨ht, hu⟩ | ⟨ht, hu⟩ | ⟨_, _, _, ht, hu⟩ <;>
    rw [FileTree.isProgramAt, FileTree.isProgramAt, ht, hu]

theorem Alike.step (h : t.Alike u) : t.step = u.step := by
  funext here name
  have hnext : (t.find? (here ++ [name])).isSome = (u.find? (here ++ [name])).isSome := by
    rcases h.cases (here ++ [name]) with ⟨ht, hu⟩ | ⟨ht, hu⟩ | ⟨_, _, _, ht, hu⟩ <;> simp [ht, hu]
  rcases h.cases here with ⟨ht, hu⟩ | ⟨ht, hu⟩ | ⟨_, _, _, ht, hu⟩ <;>
    simp only [FileTree.step, ht, hu, hnext]

theorem Alike.resolve (h : t.Alike u) : t.resolve = u.resolve := by
  funext directory p
  simp only [FileTree.resolve, walk, h.step]

theorem Alike.isDirectory (h : t.Alike u) : t.isDirectory = u.isDirectory := by
  funext directory p
  simp only [FileTree.isDirectory, h.resolve, h.isDirectoryAt]

theorem Alike.isProgram (h : t.Alike u) : t.isProgram = u.isProgram := by
  funext directory p
  simp only [FileTree.isProgram, h.resolve, h.isProgramAt]

theorem Alike.enter (h : t.Alike u) : t.enter = u.enter := by
  funext directory p
  simp only [FileTree.enter, h.resolve, h.isDirectoryAt]

theorem Alike.firstProgram (h : t.Alike u) (directory : Location) (paths : List Path)
    (r : Process.Refusal) :
    Process.firstProgram t directory paths r = Process.firstProgram u directory paths r := by
  induction paths generalizing r with
  | nil => rfl
  | cons p rest ih =>
    have hprogram : Process.program t directory p = Process.program u directory p := by
      simp only [Process.program, h.resolve, h.isProgramAt]
    simp only [Process.firstProgram, hprogram, ih]

end FileTree

namespace Machine

/-- From related states the same directories and programs are found and a command has the same outcome, and
it leaves related states behind. -/
structure ActsAs (R : σ → τ → Prop) (m : Machine σ) (m' : Machine τ) : Prop where
  directory : m.directory = m'.directory
  home : m.home = m'.home
  searchPath : m.searchPath = m'.searchPath
  isDirectory : ∀ s t, R s t → ∀ p, m.isDirectory s p = m'.isDirectory t p
  isProgram : ∀ s t, R s t → ∀ p,
    (m.files s).isProgram m.directory p = (m'.files t).isProgram m'.directory p
  reply : ∀ s t, R s t → ∀ c, (m.start s c).reply = (m'.start t c).reply
  next : ∀ s t, R s t → ∀ c, R (m.start s c).next (m'.start t c).next

variable {m : Machine σ} {m' : Machine τ} {s : σ} {t : τ}

theorem start_events (m : Machine σ) (s : σ) (c : Command) : (m.start s c).events = [] := by
  unfold start
  cases m.prepare s c <;> rfl

theorem ActsAs.host (hacts : m.ActsAs R m') : m.host.ActsAs R m'.host where
  isDirectory := hacts.isDirectory
  reply := hacts.reply
  events s t _ c := (m.start_events s c).trans (m'.start_events t c).symm
  next := hacts.next

/-- The same tools are found, and the same is logged of them. -/
theorem ActsAs.lookUpRequired (hacts : m.ActsAs R m') (hst : R s t) :
    Tool.lookUpRequired (m.surroundings s) m.searchPath m.directory.path =
      Tool.lookUpRequired (m'.surroundings t) m'.searchPath m'.directory.path := by
  have hfound : (m.files s).isProgram m.directory = (m'.files t).isProgram m'.directory :=
    funext (hacts.isProgram s t hst)
  simp only [Tool.lookUpRequired, SearchPath.find?, surroundings, hfound, hacts.home,
    hacts.searchPath, congrArg Location.path hacts.directory]

theorem prepare_of_alike (hdirectory : m.directory = m'.directory)
    (hsearchPath : m.searchPath = m'.searchPath) (h : (m.files s).Alike (m'.files t)) (c : Command) :
    m.prepare s c = m'.prepare t c := by
  simp only [prepare, directoryOf, Process.findProgram, hdirectory, hsearchPath, h.enter, h.firstProgram]

/-- Two machines whose files differ in their content alone act alike, if the programs do the same on both. -/
theorem actsAs_of_alike (hdirectory : m.directory = m'.directory) (hhome : m.home = m'.home)
    (hsearchPath : m.searchPath = m'.searchPath)
    (hfiles : ∀ s t, R s t → (m.files s).Alike (m'.files t))
    (hexecute : ∀ s t, R s t → ∀ file directory c,
      (m.execute s file directory c).1 = (m'.execute t file directory c).1 ∧
      R (m.execute s file directory c).2 (m'.execute t file directory c).2) : m.ActsAs R m' where
  directory := hdirectory
  home := hhome
  searchPath := hsearchPath
  isDirectory s t hst p := by
    simp only [isDirectory, hdirectory, (hfiles s t hst).isDirectory]
  isProgram s t hst p := by rw [hdirectory, (hfiles s t hst).isProgram]
  reply s t hst c := by
    simp only [start, prepare_of_alike hdirectory hsearchPath (hfiles s t hst) c]
    cases m'.prepare t c with
    | error cause => rfl
    | ok found => exact (hexecute s t hst found.1 found.2 c).1
  next s t hst c := by
    simp only [start, prepare_of_alike hdirectory hsearchPath (hfiles s t hst) c]
    cases m'.prepare t c with
    | error cause => exact hst
    | ok found => exact (hexecute s t hst found.1 found.2 c).2

end Machine

end Provisioning
