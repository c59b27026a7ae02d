import Provisioning.Proofs.Layout.Overrides
import Provisioning.Proofs.Options.Grammar
import Provisioning.Proofs.Program.ExitCode
import Provisioning.Proofs.Program.Refusal
import Provisioning.Proofs.Run.Alike

/-! # The option for the schema directory

The schema directory may be given with the arguments, as any octets, in place of the one that the layout
names. That is all the option does: a call with it is one without it whose layout names this directory, and
what the layout itself says of it is never looked at. -/
namespace Provisioning

/-! ## One more item among the arguments -/

namespace Options.Arrangement

variable {a : Arrangement} {o : Options}

/-- An arrangement with one more item behind the first few. -/
def insert (a : Arrangement) (k : Nat) (item : Item) : Arrangement :=
  { a with items := a.items.take k ++ item :: a.items.drop k }

theorem insert_contents (a : Arrangement) (k : Nat) (item : Item) :
    (a.insert k item).contents.Perm (item :: a.contents) := by
  have hitems : (a.items.take k ++ item :: a.items.drop k).Perm (item :: a.items) := by
    have hmiddle : (a.items.take k ++ item :: a.items.drop k).Perm
        (item :: (a.items.take k ++ a.items.drop k)) := List.perm_middle
    rwa [List.take_append_drop] at hmiddle
  exact hitems.append_right _

theorem IsLegal.insert (h : a.IsLegal) (k : Nat) {item : Item} (hitem : item.IsLegal) :
    (a.insert k item).IsLegal := by
  intro other hother
  rcases List.mem_append.1 hother with hin | hin
  · exact h other (List.mem_of_mem_take hin)
  · rcases List.mem_cons.1 hin with rfl | hin
    · exact hitem
    · exact h other (List.mem_of_mem_drop hin)

/-- Where no schema directory is given yet, one may be given anywhere, and nothing else changes. -/
theorem Means.insert_schemaDirectory (h : a.Means o) (hnone : o.schemaDirectory = none) (k : Nat)
    (form : Form) (d : Word) :
    (a.insert k (.setting .schemaDirectory form d)).Means { o with schemaDirectory := some ⟨d⟩ } := by
  have hperm := a.insert_contents k (.setting .schemaDirectory form d)
  have hdirectory : a.values .schemaDirectory = [] := by rw [h.schemaDirectory, hnone]; rfl
  refine ⟨eq_toList_of_perm (hperm.filterMap _) ?_, eq_toList_of_perm (hperm.filterMap _) ?_, ?_,
    eq_toList_of_perm (x := some _) (hperm.filterMap _) ?_⟩
  · exact (List.filterMap_cons_none rfl).trans h.configuration
  · have hfirst : Item.value? .schemaDirectory (.setting .schemaDirectory form d) = some d := rfl
    rw [List.filterMap_cons_some hfirst]
    exact congrArg (d :: ·) hdirectory
  · have hother : Item.setting .schemaDirectory form d ≠ .preview := nofun
    rw [hperm.count_eq, List.count_cons_of_ne hother, h.preview]
  · exact (List.filterMap_cons_none rfl).trans h.project

/-- The schema directory may be any octets, but not none. -/
theorem parse_insert_schemaDirectory (h : a.IsLegal) (hparse : parse a.words = .ok o)
    (hnone : o.schemaDirectory = none) (k : Nat) {form : Form} {d : Word} (hd : d ≠ [])
    (hfits : form.Fits .schemaDirectory d) :
    parse (a.insert k (.setting .schemaDirectory form d)).words =
      .ok { o with schemaDirectory := some ⟨d⟩ } :=
  have hitem : Item.IsLegal (.setting .schemaDirectory form d) := ⟨hd, hfits⟩
  (parse_eq_ok_iff (h.insert k hitem) _).2
    (((parse_eq_ok_iff h o).1 hparse).insert_schemaDirectory hnone k form d)

end Options.Arrangement

/-! ## One more directory for the plan -/

/-- A step whose command, if it runs in a directory of its own, runs in another. -/
def Step.redirect (d : Path) (step : Step) : Step :=
  { step with command := { step.command with directory := step.command.directory.map fun _ => d } }

namespace Plan

/-- A plan whose commands, as far as they run in a directory of their own, run in another. -/
def redirect (d : Path) (plan : Plan) : Plan :=
  { plan with steps := plan.steps.map (Step.redirect d) }

theorem ofLayout_redirect (layout : Layout) (project : ProjectId) (d : Path) :
    ofLayout { layout with schemaDirectory := d } project = (ofLayout layout project).redirect d := by
  have htables : tableSteps { layout with schemaDirectory := d } project =
      (tableSteps layout project).map (Step.redirect d) := by
    unfold tableSteps
    cases layout.tables with
    | nil => rfl
    | cons table rest =>
      rw [List.map_cons, List.map_map]
      rfl
  rw [ofLayout, htables, redirect, ofLayout, List.map_append, List.map_append]
  rfl

/-- No other directory is missed than the one of the layout. -/
theorem eq_schemaDirectory_of_missing {σ : Type} {host : Host σ} {s : σ} {layout : Layout}
    {project : ProjectId} {p : Path}
    (h : ((ofLayout layout project).run host s).result = .error (.schemaDirectoryMissing p)) :
    p = layout.schemaDirectory := by
  obtain ⟨k, step, hfails⟩ := run_ofLayout_eq_error_iff.1 h
  cases hfails.stops with
  | directory hd _ => exact eq_schemaDirectory_of_mem_steps (List.mem_of_getElem? hfails.position) hd

end Plan

/-! ## Calls that have their layout already -/

variable {σ τ : Type} {R : σ → τ → Prop}

/-- The same was done in two calls, and so the same exit code and text come of them; the states that are left
are related. -/
structure Performance.SameAs (R : σ → τ → Prop) (p : Performance σ) (q : Performance τ) : Prop where
  ending : p.ending = q.ending
  events : p.events = q.events
  calls : p.calls = q.calls
  final : R p.final q.final

/-- The layout that options start from: the one in their file, or else the standard one. -/
def Options.StartsFrom (read : Path → Except SystemError (List UInt8)) (o : Options) (base : Layout) :
    Prop :=
  match o.configuration with
  | some path => Layout.load read path = .ok base
  | none => base = Layout.standard

namespace Program

/-- Shows or does what a layout asks for in a project. -/
def answer (m : Machine σ) (s : σ) (preview : Bool) (raw : String) (layout : Layout) : Performance σ :=
  match ProjectId.parse raw with
  | .error failure => { ending := .failed failure, final := s }
  | .ok project =>
    if preview then Program.preview m s (Plan.ofLayout layout project)
    else execute m s (Plan.ofLayout layout project)

/-- A call that is given its layout itself, and otherwise only what kind of run it is and the project. -/
def callWith (m : Machine σ) (s : σ) (preview : Bool) (raw : String) (layout : Layout) :
    Performance σ :=
  let (tools, found) := Tool.lookUpRequired (m.surroundings s) m.searchPath m.directory.path
  match tools with
  | .error failure => { ending := .failed failure, events := found, final := s }
  | .ok () =>
    let rest := answer m s preview raw layout
    { rest with events := found ++ rest.events }

variable {m : Machine σ} {m' : Machine τ} {s : σ} {t : τ} {layout : Layout}

/-- Whatever the arguments are, a call depends on them through its layout, the preview and the project. -/
theorem call_eq_callWith {words : List Word} {o : Options} (called : Path)
    (hparse : Options.parse words = .ok o) (h : o.LeadsTo (m.read s) layout) :
    call m s called words = callWith m s o.preview o.project layout := by
  have hperform : perform m s o = answer m s o.preview o.project layout := by
    unfold perform answer
    cases hproject : ProjectId.parse o.project with
    | error failure =>
      obtain ⟨hnone, rfl⟩ := ProjectId.parse_eq_error_iff.1 hproject
      rw [(plan_eq_error_iff m s o _).2 (.inl ⟨hnone, rfl⟩)]
    | ok project =>
      have hsome := ProjectId.parse_eq_ok_iff.1 hproject
      rw [(plan_eq_ok_iff m s o _).2 ⟨project, layout, hsome, h, rfl⟩]
  rcases hfound : Tool.lookUpRequired (m.surroundings s) m.searchPath m.directory.path with
    ⟨failure | ⟨⟩, found⟩
  · simp only [call, hparse, callWith, hfound]
  · simp only [call, hparse, callWith, hfound, respond, hperform]

theorem answer_sameAs (hacts : m.ActsAs R m') (hst : R s t) (preview : Bool) (raw : String)
    (layout : Layout) :
    (answer m s preview raw layout).SameAs R (answer m' t preview raw layout) := by
  unfold answer
  cases ProjectId.parse raw with
  | error => exact ⟨rfl, rfl, rfl, hst⟩
  | ok project =>
    cases preview with
    | true =>
      obtain ⟨hresult, hevents, -, hfinal⟩ :=
        (Plan.ofLayout layout project).run_sameAs hacts.host.preview hst
      exact ⟨congrArg Ending.ofResult hresult, hevents, rfl, hfinal⟩
    | false =>
      obtain ⟨hresult, hevents, hcalls, hfinal⟩ :=
        (Plan.ofLayout layout project).run_sameAs hacts.host.logged hst
      exact ⟨congrArg Ending.ofResult hresult, hevents, hcalls, hfinal⟩

theorem callWith_sameAs (hacts : m.ActsAs R m') (hst : R s t) (preview : Bool) (raw : String)
    (layout : Layout) :
    (callWith m s preview raw layout).SameAs R (callWith m' t preview raw layout) := by
  unfold callWith
  rw [hacts.lookUpRequired hst]
  rcases Tool.lookUpRequired (m'.surroundings t) m'.searchPath m'.directory.path with
    ⟨failure | ⟨⟩, found⟩
  · exact ⟨rfl, rfl, rfl, hst⟩
  · obtain ⟨hending, hevents, hcalls, hfinal⟩ := answer_sameAs hacts hst preview raw layout
    exact ⟨hending, congrArg (found ++ ·) hevents, hcalls, hfinal⟩

/-- Options that lead to the same layout on machines that act alike come to the same. -/
theorem call_sameAs {words words' : List Word} {o o' : Options} (hacts : m.ActsAs R m') (hst : R s t)
    (called called' : Path) (hparse : Options.parse words = .ok o)
    (hparse' : Options.parse words' = .ok o') (hpreview : o'.preview = o.preview)
    (hproject : o'.project = o.project) (h : o.LeadsTo (m.read s) layout)
    (h' : o'.LeadsTo (m'.read t) layout) :
    (call m s called words).SameAs R (call m' t called' words') := by
  rw [call_eq_callWith called hparse h, call_eq_callWith called' hparse' h', hpreview, hproject]
  exact callWith_sameAs hacts hst o.preview o.project layout

theorem eq_schemaDirectory_of_callWith {preview : Bool} {raw : String} {p : Path}
    (h : (callWith m s preview raw layout).ending = .failed (.schemaDirectoryMissing p)) :
    p = layout.schemaDirectory := by
  have hresult : ∀ {result : Except Failure Report},
      Ending.ofResult result = .failed (.schemaDirectoryMissing p) →
        result = .error (.schemaDirectoryMissing p) := by
    rintro (failure | report) hending
    · rw [Ending.failed.inj hending]
    · cases hending
  unfold callWith at h
  rcases hfound : Tool.lookUpRequired (m.surroundings s) m.searchPath m.directory.path with
    ⟨failure | ⟨⟩, found⟩
  · obtain ⟨_, _, _, -, -, -, rfl⟩ :=
      (Tool.lookUp_eq_error_iff _ _ failure).1 (congrArg Prod.fst hfound)
    rw [hfound] at h
    cases h
  · rw [hfound] at h
    simp only [answer] at h
    split at h
    · next failure hproject =>
      obtain ⟨-, rfl⟩ := ProjectId.parse_eq_error_iff.1 hproject
      cases h
    · split at h
      · exact Plan.eq_schemaDirectory_of_missing (hresult h)
      · exact Plan.eq_schemaDirectory_of_missing (hresult h)

/-- To give the schema directory anywhere among the arguments comes to the same as to have a layout that
names it, be that the standard one or one from a file, and whatever it says of its own directory. The plan
is the same but that the schema tool runs in the given directory, and no other directory can be missed. -/
theorem call_given_schemaDirectory {m : Machine σ} {s : σ} {a : Options.Arrangement} {o : Options}
    {base : Layout} {form : Options.Form} {d : Word} (hlegal : a.IsLegal)
    (hparse : Options.parse a.words = .ok o) (hnone : o.schemaDirectory = none)
    (hbase : o.StartsFrom (m.read s) base) (hd : d ≠ []) (hfits : form.Fits .schemaDirectory d)
    (k : Nat) (called : Path) :
    let outcome := call m s called (a.insert k (.setting .schemaDirectory form d)).words
    let layout := { base with schemaDirectory := ⟨d⟩ }
    call m s called a.words = callWith m s o.preview o.project base ∧
    outcome = callWith m s o.preview o.project layout ∧
    (∀ (τ : Type) (m' : Machine τ) (t : τ) (R : σ → τ → Prop) (called' : Path) (words : List Word)
      (o' : Options), m.ActsAs R m' → R s t → Options.parse words = .ok o' →
      o'.preview = o.preview → o'.project = o.project →
      (o'.schemaDirectory = none ∧ o'.StartsFrom (m'.read t) layout ∨
        ∃ own, o'.schemaDirectory = some ⟨d⟩ ∧
          o'.StartsFrom (m'.read t) { base with schemaDirectory := own }) →
      outcome.SameAs R (call m' t called' words) ∧
        m.host.started s outcome.calls = m'.host.started t (call m' t called' words).calls) ∧
    (∀ p, outcome.ending = .failed (.schemaDirectoryMissing p) → p = ⟨d⟩) ∧
    ∀ project, Plan.ofLayout layout project = (Plan.ofLayout base project).redirect ⟨d⟩ ∧
      ∀ step ∈ (Plan.ofLayout layout project).steps, step.command.directory =
        if step.command.program = "bqschemaupdater" then some ⟨d⟩ else none := by
  intro outcome layout
  have hgiven := Options.Arrangement.parse_insert_schemaDirectory hlegal hparse hnone k hd hfits
  have hleads : o.LeadsTo (m.read s) base := ⟨base, hbase, by rw [hnone]; rfl⟩
  have hleadsGiven : Options.LeadsTo (m.read s) { o with schemaDirectory := some ⟨d⟩ } layout :=
    ⟨base, hbase, rfl⟩
  have houtcome : outcome = callWith m s o.preview o.project layout :=
    call_eq_callWith (o := { o with schemaDirectory := some ⟨d⟩ }) called hgiven hleadsGiven
  refine ⟨call_eq_callWith called hparse hleads, houtcome, ?_, ?_, ?_⟩
  · intro τ m' t R called' words o' hacts hst hparse' hpreview hproject hfrom
    have hleads' : o'.LeadsTo (m'.read t) layout := by
      rcases hfrom with ⟨hnone', hlayout⟩ | ⟨own, hsome, howns⟩
      · exact ⟨layout, hlayout, by rw [hnone']; rfl⟩
      · exact ⟨_, howns, by rw [hsome]; rfl⟩
    have hsame := call_sameAs hacts hst called called' hgiven hparse' hpreview hproject hleadsGiven hleads'
    refine ⟨hsame, ?_⟩
    rw [hacts.host.started hst, hsame.calls]
  · intro p hmissing
    rw [houtcome] at hmissing
    exact eq_schemaDirectory_of_callWith hmissing
  · intro project
    exact ⟨Plan.ofLayout_redirect base project ⟨d⟩, fun step hstep => Plan.directory_of_mem_steps hstep⟩

/-- The machine with everything in place and a file of some content. -/
def installedWith (content : String) : Machine Unit :=
  { Machine.installed (.ok ⟨some 0⟩) with
    files := fun _ => FileTree.installed.writeFile [] (Path.ofString "bq.toml")
      (Text.Utf8.encode content.toList) false }

theorem installedWith_actsAs (content content' : String) :
    (installedWith content).ActsAs (fun _ _ => True) (installedWith content') :=
  Machine.actsAs_of_alike rfl rfl rfl
    (fun _ _ _ => FileTree.writeFile_alike FileTree.installed [] (Path.ofString "bq.toml") _ _ false)
    fun _ _ _ _ _ _ => ⟨rfl, trivial⟩

/-- A file that names a missing directory makes a call fail. With the right one among the arguments the call
does what it does without, once the file names that. -/
theorem call_given_schemaDirectory_installed :
    let m := installedWith "proto_dir = \"elsewhere\"\n"
    let m' := installedWith "proto_dir = \"proto/api\"\n"
    let words := ["-c", "bq.toml", "swarm-dev"].map Options.word
    let given := ["-c", "bq.toml", "--proto-dir=proto/api", "swarm-dev"].map Options.word
    let called := Path.ofString Options.programName
    (call m () called words).ending =
      .failed (.schemaDirectoryMissing (Path.ofString "elsewhere")) ∧
    (call m () called given).SameAs (fun _ _ => True) (call m' () called words) ∧
    ∀ p, (call m () called given).ending = .failed (.schemaDirectoryMissing p) →
      p = Path.ofString "proto/api" := by
  intro m m' words given called
  let a : Options.Arrangement :=
    { items := [.setting .configuration .letterApart (Options.word "bq.toml"),
        .project (Options.word "swarm-dev")] }
  let o : Options := ⟨some (Path.ofString "bq.toml"), none, false, "swarm-dev"⟩
  let base := { Layout.standard with schemaDirectory := Path.ofString "elsewhere" }
  have hwords : a.words = words := by decide +kernel
  have hgiven : (a.insert 1 (.setting .schemaDirectory .joined (Options.word "proto/api"))).words =
      given := by
    decide +kernel
  have hparse : Options.parse words = .ok o := by decide +kernel
  have hbase : o.StartsFrom (m.read ()) base :=
    (Layout.load_octets { schemaDirectory := "elsewhere" } Layout.Format.plain (by decide +kernel)).trans rfl
  have hbase' : o.StartsFrom (m'.read ()) Layout.standard :=
    (Layout.load_octets { schemaDirectory := "proto/api" } Layout.Format.plain (by decide +kernel)).trans rfl
  have hacts : m.ActsAs (fun _ _ => True) m' := installedWith_actsAs _ _
  have hfails : (callWith m () false "swarm-dev" base).ending =
      .failed (.schemaDirectoryMissing (Path.ofString "elsewhere")) := by decide +kernel
  have hlegal : a.IsLegal := by decide +kernel
  have hd : Options.word "proto/api" ≠ [] := by decide +kernel
  have hfits : Options.Form.joined.Fits .schemaDirectory (Options.word "proto/api") := trivial
  obtain ⟨hwithout, -, hsame, hmissing, -⟩ :=
    call_given_schemaDirectory hlegal (by rw [hwords, hparse]) rfl hbase hd hfits 1 called
  rw [hgiven] at hsame hmissing
  rw [hwords] at hwithout
  have hsame' := hsame Unit m' () _ called words o hacts trivial hparse rfl rfl (.inl ⟨rfl, hbase'⟩)
  refine ⟨?_, hsame'.1, hmissing⟩
  rw [hwithout]
  exact hfails

end Program

end Provisioning
