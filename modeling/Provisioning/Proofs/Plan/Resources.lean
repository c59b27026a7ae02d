import Provisioning.Proofs.Layout.Validity
import Provisioning.Proofs.Plan.NulFree
import Provisioning.Proofs.Shell.Bare

/-! # The resources of a plan

A table is named between dots where it is made and behind a colon where it is removed, and a project id may
hold dots and a colon itself. Both texts are read from their end, where only identifiers stand, so they
denote the same resource. -/
namespace Provisioning

/-- What holds of the characters a text was made of holds of all its characters. -/
theorem forall_mem_ofList {p : Char → Bool} {text : List Char} (h : text.all p = true) :
    ∀ c ∈ (String.ofList text).toList, p c = true := by
  rwa [String.toList_ofList, ← List.all_eq_true]

/-- A table or a view in a dataset of a project. -/
structure Resource where
  project : String
  dataset : String
  name : String
deriving DecidableEq, Repr

/-- What stands before and after the last place of a character. -/
def splitLast? (c : Char) : List Char → Option (List Char × List Char)
  | [] => none
  | d :: rest =>
    match splitLast? c rest with
    | some (before, after) => some (d :: before, after)
    | none => if d = c then some ([], rest) else none

theorem splitLast?_eq_none {c : Char} {text : List Char} (h : c ∉ text) :
    splitLast? c text = none := by
  induction text with
  | nil => rfl
  | cons d rest ih =>
    rw [List.mem_cons, not_or] at h
    rw [splitLast?, ih h.2, if_neg (Ne.symm h.1)]

theorem splitLast?_append {c : Char} (before : List Char) {after : List Char} (h : c ∉ after) :
    splitLast? c (before ++ c :: after) = some (before, after) := by
  induction before with
  | nil => simp [splitLast?, splitLast?_eq_none h]
  | cons d before ih => rw [List.cons_append, splitLast?, ih]

namespace Resource

/-- The resource that a text names between dots. -/
def ofDotted? (text : String) : Option Resource := do
  let (qualifier, name) ← splitLast? '.' text.toList
  let (project, dataset) ← splitLast? '.' qualifier
  return ⟨.ofList project, .ofList dataset, .ofList name⟩

/-- The resource that a text names by its project, a colon, its dataset, a dot and its name. -/
def ofQualified? (text : String) : Option Resource := do
  let (project, rest) ← splitLast? ':' text.toList
  match rest.splitOn '.' with
  | [dataset, name] => return ⟨.ofList project, .ofList dataset, .ofList name⟩
  | _ => none

/-- Whatever the project is called, the last two dots are those around the dataset. -/
theorem ofDotted?_of_isIdentifier (project : String) {dataset name : String}
    (hdataset : Layout.isIdentifier dataset = true) (hname : Layout.isIdentifier name = true) :
    ofDotted? (project ++ "." ++ dataset ++ "." ++ name) = some ⟨project, dataset, name⟩ := by
  have htext : (project ++ "." ++ dataset ++ "." ++ name).toList =
      (project.toList ++ '.' :: dataset.toList) ++ '.' :: name.toList := by
    simp
  have hdot : '.' ∉ dataset.toList := Layout.not_mem_of_isIdentifier hdataset (by decide)
  rw [ofDotted?, htext, splitLast?_append _ (Layout.not_mem_of_isIdentifier hname (by decide))]
  simp [splitLast?_append _ hdot]

/-- Whatever the project is called, the last colon is the one behind it. -/
theorem ofQualified?_of_isIdentifier (project : String) {dataset name : String}
    (hdataset : Layout.isIdentifier dataset = true) (hname : Layout.isIdentifier name = true) :
    ofQualified? (project ++ ":" ++ dataset ++ "." ++ name) = some ⟨project, dataset, name⟩ := by
  have htext : (project ++ ":" ++ dataset ++ "." ++ name).toList =
      project.toList ++ ':' :: (dataset.toList ++ '.' :: name.toList) := by
    simp
  have hcolon : ':' ∉ dataset.toList ++ '.' :: name.toList := by
    simp [Layout.not_mem_of_isIdentifier hdataset, Layout.not_mem_of_isIdentifier hname]
  have hdots : ∀ part ∈ [dataset.toList, name.toList], '.' ∉ part := by
    simp [Layout.not_mem_of_isIdentifier hdataset, Layout.not_mem_of_isIdentifier hname]
  have hsplit : (dataset.toList ++ '.' :: name.toList).splitOn '.' =
      [dataset.toList, name.toList] := by
    simpa using List.splitOn_intercalate '.' hdots (List.cons_ne_nil _ _)
  rw [ofQualified?, htext, splitLast?_append _ hcolon]
  simp [hsplit]

end Resource

namespace Command

/-- The value of an option of the schema tool; but for `-force` every option has one. -/
def schemaOption? (name : String) : List String → Option String
  | first :: second :: rest =>
    if first = "-force" then schemaOption? name (second :: rest)
    else if first = name then some second
    else schemaOption? name rest
  | _ => none

/-- The resource that a command is about: the schema tool takes it as the value of an option, and `bq` as
its last argument. -/
def resource? (c : Command) : Option Resource :=
  if c.program = "bqschemaupdater" then
    (schemaOption? "-table" c.arguments).bind Resource.ofDotted?
  else c.arguments.getLast?.bind Resource.ofQualified?

end Command

theorem ProjectId.isBare_of_mem (project : ProjectId) {c : Char} (h : c ∈ project.text.toList) :
    Shell.isBare c = true := by
  have hname : ∀ d, isNameChar d = true → Shell.isBare d = true := by
    intro d hd
    simp only [isNameChar, Bool.or_eq_true, beq_iff_eq] at hd
    rcases hd with hd | rfl
    · exact Shell.isBare_of_isAlphanum hd
    · rfl
  have hdomain : ∀ d, isDomainChar d = true → Shell.isBare d = true := by
    intro d hd
    simp only [isDomainChar, Bool.or_eq_true, beq_iff_eq] at hd
    rcases hd with (hd | rfl) | rfl
    · exact Shell.isBare_of_isAlphanum hd
    · rfl
    · rfl
  rcases isWellFormed_cases project.wellFormed with hall | ⟨domain, name, htext, hbefore, hbehind⟩
  · exact hname c (hall c h)
  · rw [htext, List.mem_append, List.mem_cons] at h
    rcases h with hin | rfl | hin
    · exact hdomain c (hbefore c hin)
    · rfl
    · exact hname c (hbehind c hin)

theorem Layout.isBare_of_isIdentifier {text : String} (h : isIdentifier text = true) {c : Char}
    (hc : c ∈ text.toList) : Shell.isBare c = true := by
  have hchar := ((isIdentifier_iff text).1 h).2 c hc
  simp only [Bool.or_eq_true, beq_iff_eq] at hchar
  rcases hchar with hchar | rfl
  · exact Shell.isBare_of_isAlphanum hchar
  · rfl

namespace Plan

variable {layout : Layout} {project : ProjectId}

theorem removal_resource? (project : ProjectId) {dataset name : String}
    (hdataset : Layout.isIdentifier dataset = true) (hname : Layout.isIdentifier name = true) :
    (removal project dataset name).resource? = some ⟨project.text, dataset, name⟩ :=
  Resource.ofQualified?_of_isIdentifier project.text hdataset hname

/-- The command that removes a resource stands on one line without quotes. -/
theorem removal_line (project : ProjectId) {dataset name : String}
    (hdataset : Layout.isIdentifier dataset = true) (hname : Layout.isIdentifier name = true) :
    (removal project dataset name).line =
        "bq rm " ++ project.text ++ ":" ++ dataset ++ "." ++ name ∧
      ∀ c ∈ (removal project dataset name).line.toList, c = ' ' ∨ Shell.isBare c = true := by
  have hresource : ∀ c ∈ (resource project dataset name).toList, Shell.isBare c = true := by
    intro c hc
    simp only [resource, String.toList_append, List.mem_append] at hc
    rcases hc with (((hc | hc) | hc) | hc) | hc
    · exact project.isBare_of_mem hc
    · obtain rfl : c = ':' := by simpa using hc
      rfl
    · exact Layout.isBare_of_isIdentifier hdataset hc
    · obtain rfl : c = '.' := by simpa using hc
      rfl
    · exact Layout.isBare_of_isIdentifier hname hc
  have hline : (removal project dataset name).line = "bq rm " ++ resource project dataset name := by
    have hbare : ∀ word ∈ (removal project dataset name).words.map String.toList,
        Shell.IsBareWord word := by
      simp only [removal, Command.words, List.map_cons, List.map_nil, List.forall_mem_cons]
      refine ⟨⟨by simp, forall_mem_ofList (by decide)⟩, ⟨by simp, forall_mem_ofList (by decide)⟩,
        ⟨by simp [resource], hresource⟩, List.forall_mem_nil _⟩
    apply String.toList_inj.1
    rw [Command.line, Shell.join, String.toList_ofList, Shell.joinWords_of_bare hbare]
    simp [removal, Command.words]
  constructor
  · rw [hline, resource]
    simp only [String.append_assoc]
  · intro c hc
    rw [hline, String.toList_append, List.mem_append] at hc
    rcases hc with hc | hc
    · simpa using forall_mem_ofList (p := fun d => d == ' ' || Shell.isBare d) (by decide) c hc
    · exact .inr (hresource c hc)

theorem tableStepAt_resource? (project : ProjectId) (i : Nat) {table : Table}
    (hdataset : Layout.isIdentifier layout.dataset = true)
    (hname : Layout.isIdentifier table.name = true) :
    (tableStepAt layout project i table).command.resource? =
      some ⟨project.text, layout.dataset, table.name⟩ :=
  Resource.ofDotted?_of_isIdentifier project.text hdataset hname

theorem viewStep_resource? (project : ProjectId)
    (hdataset : Layout.isIdentifier layout.dataset = true)
    (hname : Layout.isIdentifier layout.view.name = true) :
    (viewStep layout project).command.resource? =
      some ⟨project.text, layout.dataset, layout.view.name⟩ :=
  Resource.ofQualified?_of_isIdentifier project.text hdataset hname

/-- Each resource of a layout has its step, which is about it and knows how to remove it. -/
theorem exists_step_of_resourceNames (project : ProjectId) (h : layout.IsValid) {k : Nat}
    {name : String} (hname : layout.resourceNames[k]? = some name) :
    Layout.isIdentifier name = true ∧ ∃ step, (ofLayout layout project).steps[k + 3]? = some step ∧
      step.command.resource? = some ⟨project.text, layout.dataset, name⟩ ∧
      step.onFailure.cleanup? = some (removal project layout.dataset name) := by
  rcases Layout.resourceNames_getElem?_eq_some_iff.1 hname with ⟨table, htable, rfl⟩ | ⟨rfl, rfl⟩
  · have hidentifier := h.tableNames table (List.mem_of_getElem? htable)
    exact ⟨hidentifier, _, steps_getElem?_table htable,
      tableStepAt_resource? project k h.dataset hidentifier, rfl⟩
  · exact ⟨h.viewName, _, steps_getElem?_view, viewStep_resource? project h.dataset h.viewName, rfl⟩

/-- Behind the first three steps each is about one resource, which no other step is about, and its cleanup
removes that resource. The cleanup is one line without quotes. -/
theorem cleanup_removes_own_resource {raw : String} {project : ProjectId} {layout : Layout}
    (hproject : ProjectId.parse? raw = some project) (hlayout : layout.validate = .ok layout) :
    (ofLayout layout project).steps.length = layout.resourceNames.length + 3 ∧
    ∀ (k : Nat) (name : String), layout.resourceNames[k]? = some name → ∃ step cleanup,
      (ofLayout layout project).steps[k + 3]? = some step ∧
      step.command.resource? = some ⟨raw, layout.dataset, name⟩ ∧
      step.onFailure.cleanup? = some cleanup ∧
      cleanup.resource? = some ⟨raw, layout.dataset, name⟩ ∧
      cleanup.line = "bq rm " ++ raw ++ ":" ++ layout.dataset ++ "." ++ name ∧
      (∀ c ∈ cleanup.line.toList, c = ' ' ∨ Shell.isBare c = true) ∧
      ∀ (j : Nat) (other : Step), (ofLayout layout project).steps[j + 3]? = some other → j ≠ k →
        other.command.resource? ≠ step.command.resource? ∧
        other.command.resource? ≠ cleanup.resource? := by
  have hvalid := (Layout.validate_eq_ok_iff.1 hlayout).2
  obtain rfl := ProjectId.parse?_eq_some_iff.1 hproject
  have hlength : (ofLayout layout project).steps.length = layout.resourceNames.length + 3 := by
    simp [steps_length, Layout.resourceNames]
  refine ⟨hlength, fun k name hname => ?_⟩
  obtain ⟨hidentifier, step, hstep, hresource, hcleanup⟩ :=
    exists_step_of_resourceNames project hvalid hname
  have hremoved := removal_resource? project hvalid.dataset hidentifier
  obtain ⟨hline, hbare⟩ := removal_line project hvalid.dataset hidentifier
  refine ⟨step, _, hstep, hresource, hcleanup, hremoved, hline, hbare, fun j other hother hne => ?_⟩
  have hj : j < layout.resourceNames.length := by
    have hlt := (List.getElem?_eq_some_iff.1 hother).1
    omega
  obtain ⟨-, _, hstep', hresource', -⟩ :=
    exists_step_of_resourceNames project hvalid (List.getElem?_eq_getElem hj)
  obtain rfl : other = _ := Option.some.inj (hother.symm.trans hstep')
  have hapart : layout.resourceNames[j] ≠ name := by
    rintro rfl
    exact hne ((List.getElem?_inj hj hvalid.distinct).1
      ((List.getElem?_eq_getElem hj).trans hname.symm))
  rw [hresource', hresource, hremoved]
  simpa using hapart

/-- A project id with a dot and a colon of its own, and the second table. -/
theorem cleanup_removes_own_resource_scoped :
    let project : ProjectId := ⟨"google.com:swarm-dev", by decide⟩
    ProjectId.parse? "google.com:swarm-dev" = some project ∧
      Layout.standard.validate = .ok Layout.standard ∧
      ∃ step cleanup, (ofLayout Layout.standard project).steps[4]? = some step ∧
        step.command.resource? = some ⟨"google.com:swarm-dev", "swarming", "task_requests"⟩ ∧
        step.onFailure.cleanup? = some cleanup ∧
        cleanup.line = "bq rm google.com:swarm-dev:swarming.task_requests" := by
  intro project
  have hproject : ProjectId.parse? "google.com:swarm-dev" = some project := project.parse?_text
  have hvalid : Layout.standard.validate = .ok Layout.standard := by decide +kernel
  obtain ⟨-, hall⟩ := cleanup_removes_own_resource hproject hvalid
  obtain ⟨step, cleanup, hstep, hresource, hcleanup, -, hline, -⟩ := hall 1 "task_requests" rfl
  exact ⟨hproject, hvalid, step, cleanup, hstep, hresource, hcleanup, hline⟩

end Plan

end Provisioning
