import Provisioning.Proofs.Layout.Overrides
import Provisioning.Proofs.Plan.ViewQuery

/-! # What the steps of a plan depend on

A table or a view is placed in a dataset, and a view selects from a resource besides. Both, and what a step
makes, are read from its command. A plan is in order if whatever a step needs is made before it or by no
step at all. Validation keeps the names of the tables and of the view apart, but it lets the view select
from a resource of its own name, and that is the one way for a plan to be out of order. -/
namespace Provisioning

/-- What steps make and need: a dataset of a project, or a resource in one. -/
inductive Asset where
  | dataset (project name : String)
  | resource (resource : Resource)
deriving DecidableEq, Repr

/-- The dataset that a resource is placed in. -/
def Resource.home (r : Resource) : Asset :=
  .dataset r.project r.dataset

/-- The dataset that a text names behind a colon. -/
def Asset.ofDataset? (text : String) : Option Asset := do
  let (project, name) ← splitLast? ':' text.toList
  return .dataset (.ofList project) (.ofList name)

theorem Asset.ofDataset?_of_isIdentifier (project : String) {name : String}
    (hname : Layout.isIdentifier name = true) :
    ofDataset? (project ++ ":" ++ name) = some (.dataset project name) := by
  have htext : (project ++ ":" ++ name).toList = project.toList ++ ':' :: name.toList := by
    simp
  rw [ofDataset?, htext, splitLast?_append _ (Layout.not_mem_of_isIdentifier hname (by decide))]
  simp

/-- The resource that a query selects from: the one named between its backquotes. -/
def Query.selected? (query : String) : Option Resource :=
  match query.toList.splitOn Query.backquote with
  | [_, name, _] => Resource.ofDotted? (.ofList name)
  | _ => none

theorem Query.selected?_text (project : ProjectId) {dataset table : String}
    (hdataset : Layout.isIdentifier dataset = true) (htable : Layout.isIdentifier table = true) :
    selected? (text project dataset table) = some ⟨project.text, dataset, table⟩ := by
  simp only [selected?, splitOn_text project hdataset htable, String.ofList_toList]
  exact Resource.ofDotted?_of_isIdentifier project.text hdataset htable

namespace Command

/-- What a command makes. The schema tool makes a table, and `bq mk` a dataset or a view. -/
def makes? (c : Command) : Option Asset :=
  if c.program = "bq" ∧ c.arguments[2]? = some "--dataset" then
    c.arguments.getLast?.bind Asset.ofDataset?
  else if c.program = "bqschemaupdater" ∨ c.viewQuery?.isSome then c.resource?.map Asset.resource
  else none

/-- What has to be there for a command: the dataset of the resource that it makes, and what the query of a
view selects from. -/
def needs (c : Command) : List Asset :=
  (c.makes?.bind fun
    | .dataset _ _ => none
    | .resource r => some r.home).toList ++
  (c.viewQuery?.bind Query.selected?).toList.map Asset.resource

theorem needs_eq_of_makes? {c : Command} {r : Resource} (h : c.makes? = some (.resource r)) :
    c.needs = r.home :: (c.viewQuery?.bind Query.selected?).toList.map Asset.resource := by
  rw [needs, h]
  rfl

end Command

namespace Plan

variable {layout : Layout} {project : ProjectId}

theorem datasetStep_makes? (project : ProjectId) (h : Layout.isIdentifier layout.dataset = true) :
    (datasetStep layout project).command.makes? = some (.dataset project.text layout.dataset) :=
  (if_pos ⟨rfl, rfl⟩).trans (Asset.ofDataset?_of_isIdentifier project.text h)

theorem datasetStep_needs (project : ProjectId) (h : Layout.isIdentifier layout.dataset = true) :
    (datasetStep layout project).command.needs = [] := by
  have hother : some "--dataset" ≠ some "--view" := by decide
  have hquery : (datasetStep layout project).command.viewQuery? = none := if_neg fun h => hother h.2
  rw [Command.needs, datasetStep_makes? project h, hquery]
  rfl

theorem tableStepAt_makes? (project : ProjectId) (i : Nat) {table : Table}
    (hdataset : Layout.isIdentifier layout.dataset = true)
    (hname : Layout.isIdentifier table.name = true) :
    (tableStepAt layout project i table).command.makes? =
      some (.resource ⟨project.text, layout.dataset, table.name⟩) := by
  have hother : "bqschemaupdater" ≠ "bq" := by decide
  rw [Command.makes?, if_neg fun h => hother h.1, if_pos (.inl rfl),
    tableStepAt_resource? project i hdataset hname]
  rfl

theorem viewStep_makes? (project : ProjectId) (hdataset : Layout.isIdentifier layout.dataset = true)
    (hname : Layout.isIdentifier layout.view.name = true) :
    (viewStep layout project).command.makes? =
      some (.resource ⟨project.text, layout.dataset, layout.view.name⟩) := by
  have hother : some "--view" ≠ some "--dataset" := by decide
  have hquery : (viewStep layout project).command.viewQuery?.isSome := by
    rw [viewStep_viewQuery?]
    rfl
  rw [Command.makes?, if_neg fun h => hother h.2, if_pos (.inr hquery),
    viewStep_resource? project hdataset hname]
  rfl

theorem tableStepAt_needs (project : ProjectId) (i : Nat) {table : Table}
    (hdataset : Layout.isIdentifier layout.dataset = true)
    (hname : Layout.isIdentifier table.name = true) :
    (tableStepAt layout project i table).command.needs = [.dataset project.text layout.dataset] := by
  rw [Command.needs_eq_of_makes? (tableStepAt_makes? project i hdataset hname), tableStepAt_viewQuery?]
  rfl

theorem viewStep_needs (project : ProjectId) (hdataset : Layout.isIdentifier layout.dataset = true)
    (hname : Layout.isIdentifier layout.view.name = true)
    (hsource : Layout.isIdentifier layout.view.source = true) :
    (viewStep layout project).command.needs =
      [.dataset project.text layout.dataset,
        .resource ⟨project.text, layout.dataset, layout.view.source⟩] := by
  rw [Command.needs_eq_of_makes? (viewStep_makes? project hdataset hname), viewStep_viewQuery?,
    Option.bind_some, Query.selected?_text project hdataset hsource]
  rfl

/-- The step at a position makes something. -/
def Makes (plan : Plan) (k : Nat) (asset : Asset) : Prop :=
  ∃ step, plan.steps[k]? = some step ∧ step.command.makes? = some asset

/-- The step at a position needs something. -/
def Needs (plan : Plan) (k : Nat) (asset : Asset) : Prop :=
  ∃ step, plan.steps[k]? = some step ∧ asset ∈ step.command.needs

/-- Whatever a step needs is made by steps before it only, if by any. -/
def IsOrdered (plan : Plan) : Prop :=
  ∀ k j asset, plan.Needs k asset → plan.Makes j asset → j < k

/-- The third step makes the dataset, and behind it each makes the resource of its name. -/
theorem makes_iff (project : ProjectId) (h : layout.IsValid) {k : Nat} {asset : Asset} :
    (ofLayout layout project).Makes k asset ↔
      k = 2 ∧ asset = .dataset project.text layout.dataset ∨
      ∃ i name, k = i + 3 ∧ layout.resourceNames[i]? = some name ∧
        asset = .resource ⟨project.text, layout.dataset, name⟩ := by
  simp only [Layout.resourceNames_getElem?_eq_some_iff]
  constructor
  · rintro ⟨step, hstep, hmakes⟩
    rcases step_cases hstep with
      ⟨-, rfl⟩ | ⟨-, rfl⟩ | ⟨rfl, rfl⟩ | ⟨i, table, rfl, htable, rfl⟩ | ⟨rfl, rfl⟩
    · cases hmakes
    · cases hmakes
    · rw [datasetStep_makes? project h.dataset] at hmakes
      exact .inl ⟨rfl, (Option.some.inj hmakes).symm⟩
    · have hname := h.tableNames table (List.mem_of_getElem? htable)
      rw [tableStepAt_makes? project i h.dataset hname] at hmakes
      exact .inr ⟨i, _, rfl, .inl ⟨table, htable, rfl⟩, (Option.some.inj hmakes).symm⟩
    · rw [viewStep_makes? project h.dataset h.viewName] at hmakes
      exact .inr ⟨_, _, rfl, .inr ⟨rfl, rfl⟩, (Option.some.inj hmakes).symm⟩
  · rintro (⟨rfl, rfl⟩ | ⟨i, name, rfl, ⟨table, htable, rfl⟩ | ⟨rfl, rfl⟩, rfl⟩)
    · exact ⟨_, rfl, datasetStep_makes? project h.dataset⟩
    · have hname := h.tableNames table (List.mem_of_getElem? htable)
      exact ⟨_, steps_getElem?_table htable, tableStepAt_makes? project i h.dataset hname⟩
    · exact ⟨_, steps_getElem?_view, viewStep_makes? project h.dataset h.viewName⟩

/-- Every step behind the third needs the dataset, and the last one what the view selects from. -/
theorem needs_iff (project : ProjectId) (h : layout.IsValid) {k : Nat} {asset : Asset} :
    (ofLayout layout project).Needs k asset ↔
      (3 ≤ k ∧ k ≤ layout.tables.length + 3) ∧ asset = .dataset project.text layout.dataset ∨
      k = layout.tables.length + 3 ∧
        asset = .resource ⟨project.text, layout.dataset, layout.view.source⟩ := by
  constructor
  · rintro ⟨step, hstep, hneeds⟩
    rcases step_cases hstep with
      ⟨-, rfl⟩ | ⟨-, rfl⟩ | ⟨rfl, rfl⟩ | ⟨i, table, rfl, htable, rfl⟩ | ⟨rfl, rfl⟩
    · cases hneeds
    · cases hneeds
    · rw [datasetStep_needs project h.dataset] at hneeds
      cases hneeds
    · have hi := (List.getElem?_eq_some_iff.1 htable).1
      rw [tableStepAt_needs project i h.dataset (h.tableNames table (List.mem_of_getElem? htable)),
        List.mem_singleton] at hneeds
      exact .inl ⟨by omega, hneeds⟩
    · rw [viewStep_needs project h.dataset h.viewName h.viewSource, List.mem_pair] at hneeds
      rcases hneeds with rfl | rfl
      · exact .inl ⟨by omega, rfl⟩
      · exact .inr ⟨rfl, rfl⟩
  · have hview := viewStep_needs project h.dataset h.viewName h.viewSource
    rintro (⟨⟨hlow, hhigh⟩, rfl⟩ | ⟨rfl, rfl⟩)
    · obtain ⟨i, rfl⟩ := Nat.exists_eq_add_of_le' hlow
      rcases Nat.lt_or_ge i layout.tables.length with hi | hi
      · have htable := List.getElem?_eq_getElem hi
        refine ⟨_, steps_getElem?_table htable, ?_⟩
        rw [tableStepAt_needs project i h.dataset (h.tableNames _ (List.getElem_mem hi))]
        exact List.mem_singleton_self _
      · obtain rfl : i = layout.tables.length := by omega
        refine ⟨_, steps_getElem?_view, ?_⟩
        rw [hview]
        exact List.mem_cons_self
    · refine ⟨_, steps_getElem?_view, ?_⟩
      rw [hview]
      exact List.mem_cons_of_mem _ (List.mem_singleton_self _)

/-- No two steps make the same. -/
theorem Makes.unique (h : layout.IsValid) {j k : Nat} {asset : Asset}
    (hj : (ofLayout layout project).Makes j asset) (hk : (ofLayout layout project).Makes k asset) :
    j = k := by
  rw [makes_iff project h] at hj hk
  rcases hj with ⟨rfl, rfl⟩ | ⟨j, name, rfl, hj, rfl⟩
  · rcases hk with ⟨rfl, -⟩ | ⟨_, _, -, -, hasset⟩
    · rfl
    · cases hasset
  · rcases hk with ⟨-, hasset⟩ | ⟨k, name', rfl, hk, hasset⟩
    · cases hasset
    · cases hasset
      have hin := (List.getElem?_eq_some_iff.1 hj).1
      rw [(List.getElem?_inj hin h.distinct).1 (hj.trans hk.symm)]

/-- A step that needs what a step makes is either behind that step, or it is that of a view which selects
from itself. -/
theorem lt_or_eq_of_needs (h : layout.IsValid) {j k : Nat} {asset : Asset}
    (hneeds : (ofLayout layout project).Needs k asset)
    (hmakes : (ofLayout layout project).Makes j asset) :
    j < k ∨ j = k ∧ k = layout.tables.length + 3 ∧
      asset = .resource ⟨project.text, layout.dataset, layout.view.source⟩ ∧
      layout.view.source = layout.view.name := by
  rw [needs_iff project h] at hneeds
  rw [makes_iff project h] at hmakes
  rcases hneeds with ⟨⟨hlow, -⟩, rfl⟩ | ⟨rfl, rfl⟩
  · rcases hmakes with ⟨rfl, -⟩ | ⟨_, _, -, -, hasset⟩
    · exact .inl (by omega)
    · cases hasset
  · rcases hmakes with ⟨-, hasset⟩ | ⟨i, name, rfl, hname, hasset⟩
    · cases hasset
    · cases hasset
      rcases Layout.resourceNames_getElem?_eq_some_iff.1 hname with ⟨table, htable, -⟩ | ⟨rfl, hself⟩
      · have hi := (List.getElem?_eq_some_iff.1 htable).1
        exact .inl (by omega)
      · exact .inr ⟨rfl, rfl, rfl, hself⟩

theorem makes_of_resourceNames (project : ProjectId) (h : layout.IsValid) {i : Nat} {name : String}
    (hname : layout.resourceNames[i]? = some name) :
    (ofLayout layout project).Makes (i + 3) (.resource ⟨project.text, layout.dataset, name⟩) :=
  (makes_iff project h).2 (.inr ⟨i, name, rfl, hname, rfl⟩)

theorem needs_source (project : ProjectId) (h : layout.IsValid) :
    (ofLayout layout project).Needs (layout.tables.length + 3)
      (.resource ⟨project.text, layout.dataset, layout.view.source⟩) :=
  (needs_iff project h).2 (.inr ⟨rfl, rfl⟩)

/-- Before a table or a view is made, the third step makes the dataset that it needs. -/
theorem Makes.home (h : layout.IsValid) {k : Nat} {r : Resource}
    (hmakes : (ofLayout layout project).Makes k (.resource r)) :
    (ofLayout layout project).Needs k r.home ∧ (ofLayout layout project).Makes 2 r.home ∧ 2 < k := by
  rcases (makes_iff project h).1 hmakes with ⟨-, hasset⟩ | ⟨i, name, rfl, hname, hasset⟩
  · cases hasset
  · cases hasset
    have hi : i < layout.tables.length + 1 := by
      simpa [Layout.resourceNames] using (List.getElem?_eq_some_iff.1 hname).1
    exact ⟨(needs_iff project h).2 (.inl ⟨by omega, rfl⟩), (makes_iff project h).2 (.inl ⟨rfl, rfl⟩),
      by omega⟩

theorem isOrdered_iff (project : ProjectId) (h : layout.IsValid) :
    (ofLayout layout project).IsOrdered ↔ layout.view.source ≠ layout.view.name := by
  constructor
  · intro hordered hself
    have hname : layout.resourceNames[layout.tables.length]? = some layout.view.source :=
      Layout.resourceNames_getElem?_eq_some_iff.2 (.inr ⟨rfl, hself⟩)
    exact Nat.lt_irrefl _ (hordered _ _ _ (needs_source project h) (makes_of_resourceNames project h hname))
  · intro hapart k j asset hneeds hmakes
    rcases lt_or_eq_of_needs h hneeds hmakes with hlt | ⟨-, -, -, hself⟩
    · exact hlt
    · exact absurd hself hapart

/-- The plan of a valid layout for a project is in order just if its view does not select from a resource of
its own name. Whatever a step needs is otherwise made before it, by one step only, or by none: the dataset
of every table and view by the third step, and the source of the view, if it is a table of the layout, by
the step of that table. Never does a step need what a later one makes. -/
theorem isOrdered_iff_of_valid {raw : String} {project : ProjectId} {layout : Layout}
    (hproject : ProjectId.parse? raw = some project) (hlayout : layout.validate = .ok layout) :
    let plan := ofLayout layout project
    let source := Asset.resource ⟨raw, layout.dataset, layout.view.source⟩
    (plan.IsOrdered ↔ layout.view.source ≠ layout.view.name) ∧
    (∀ j k asset, plan.Needs k asset → plan.Makes j asset →
      (∀ i, plan.Makes i asset → i = j) ∧
      (j < k ∨ j = k ∧ k = layout.tables.length + 3 ∧ asset = source ∧
        layout.view.source = layout.view.name)) ∧
    (∀ k r, plan.Makes k (.resource r) → plan.Needs k r.home ∧ plan.Makes 2 r.home ∧ 2 < k) ∧
    (∀ i table, layout.tables[i]? = some table → table.name = layout.view.source →
      plan.Makes (i + 3) source ∧ plan.Needs (layout.tables.length + 3) source ∧
        i + 3 < layout.tables.length + 3) := by
  intro plan source
  have hvalid := (Layout.validate_eq_ok_iff.1 hlayout).2
  obtain rfl := ProjectId.parse?_eq_some_iff.1 hproject
  refine ⟨isOrdered_iff project hvalid, fun j k asset hneeds hmakes => ⟨fun i hi => ?_, ?_⟩,
    fun k r => Makes.home hvalid, fun i table htable hname => ?_⟩
  · exact hi.unique hvalid hmakes
  · exact lt_or_eq_of_needs hvalid hneeds hmakes
  · have hi := (List.getElem?_eq_some_iff.1 htable).1
    have hplace : layout.resourceNames[i]? = some layout.view.source :=
      Layout.resourceNames_getElem?_eq_some_iff.2 (.inl ⟨table, htable, hname.symm⟩)
    exact ⟨makes_of_resourceNames project hvalid hplace, needs_source project hvalid, by omega⟩

/-- The standard layout, for a project id with a dot and a colon of its own: the view comes three steps
behind the table that it selects from. -/
theorem isOrdered_iff_of_valid_standard :
    let project : ProjectId := ⟨"google.com:swarm-dev", by decide⟩
    let plan := ofLayout Layout.standard project
    let source := Asset.resource ⟨"google.com:swarm-dev", "swarming", "bot_events"⟩
    ProjectId.parse? "google.com:swarm-dev" = some project ∧
      Layout.standard.validate = .ok Layout.standard ∧
      plan.IsOrdered ∧ plan.Makes 3 source ∧ plan.Needs 6 source := by
  intro project plan source
  have hproject : ProjectId.parse? "google.com:swarm-dev" = some project := project.parse?_text
  have hvalid : Layout.standard.validate = .ok Layout.standard := by decide +kernel
  obtain ⟨hordered, -, -, hsource⟩ := isOrdered_iff_of_valid hproject hvalid
  obtain ⟨hmakes, hneeds, -⟩ := hsource 0 _ rfl rfl
  exact ⟨hproject, hvalid, hordered.2 (by decide), hmakes, hneeds⟩

/-- A file may name the view as its own source. Validation lets that pass, and the step of the view then
needs what it makes itself; should it fail, the source is what the user is told to remove. -/
theorem not_isOrdered_of_view_of_itself :
    let layout := { Layout.standard with view := ⟨"bot_deltas", "bot_deltas"⟩ }
    let plan := ofLayout layout ⟨"swarm-dev", by decide⟩
    let own : Resource := ⟨"swarm-dev", "swarming", "bot_deltas"⟩
    let read : Path → Except SystemError (List UInt8) := fun _ =>
      .ok (Text.Utf8.encode "[view]\nname = \"bot_deltas\"\nsource_table = \"bot_deltas\"\n".toList)
    Layout.load read (Path.ofString "bq.toml") = .ok layout ∧
      layout.validate = .ok layout ∧
      plan.Needs 6 (.resource own) ∧ plan.Makes 6 (.resource own) ∧ ¬ plan.IsOrdered ∧
      (plan.steps[6]?.bind (·.onFailure.cleanup?)).bind Command.resource? = some own := by
  intro layout plan own read
  have hload : Layout.load read (Path.ofString "bq.toml") = .ok layout := by
    refine (Layout.load_octets { view := some ⟨"bot_deltas", "bot_deltas"⟩ } Layout.Format.plain
      ?_).trans rfl
    exact congrArg (fun text => Except.ok (Text.Utf8.encode text)) (by decide +kernel)
  have hvalidate : layout.validate = .ok layout := by decide +kernel
  have hvalid := (Layout.validate_eq_ok_iff.1 hvalidate).2
  have hneeds : plan.Needs 6 (.resource own) := (needs_iff _ hvalid).2 (.inr ⟨rfl, rfl⟩)
  have hmakes : plan.Makes 6 (.resource own) :=
    (makes_iff _ hvalid).2 (.inr ⟨3, _, rfl, rfl, rfl⟩)
  refine ⟨hload, hvalidate, hneeds, hmakes, fun hordered => ?_, ?_⟩
  · exact Nat.lt_irrefl 6 (hordered 6 6 _ hneeds hmakes)
  · exact removal_resource? _ hvalid.dataset hvalid.viewName

end Plan

end Provisioning
