import Provisioning.Proofs.Plan.Resources
import Provisioning.Text.Blank

/-! # The query of a plan

One command of a plan makes a view of a query. The query is the same text for every layout and every project
but for the name between its two backquotes. No character that a project id or an identifier may hold ends
or escapes that name, and its last two dots tell which table it is. -/
namespace Provisioning

namespace Query

/-- The character around the name of a table. -/
def backquote : Char := '\x60'

/-- What every query starts with, up to the first backquote. -/
def opening : List Char :=
  head.toList.dropLast

/-- What every query ends with, behind the second backquote. -/
def closing : List Char :=
  tail.toList.tail

/-- Whether a character could end a name, escape what comes after it or part it into words. -/
def breaksName (c : Char) : Bool :=
  [backquote, '"', '\'', '\\'].contains c || Text.Blank.isBlank c

-- Two facts of a text at once, so that it is spelled out only once.

theorem head_parts : head.toList = opening ++ [backquote] ∧ backquote ∉ opening := by decide +kernel

theorem tail_parts : tail.toList = backquote :: closing ∧ backquote ∉ closing := by decide +kernel

theorem toNat_of_isBare {c : Char} (h : Shell.isBare c = true) : 0x2B ≤ c.toNat ∧ c.toNat ≤ 0x7A := by
  simp only [Shell.isBare, Bool.or_eq_true, List.contains_iff_mem, List.mem_cons, List.not_mem_nil,
    or_false] at h
  rcases h with h | rfl | rfl | rfl | rfl | rfl | rfl | rfl | rfl
  · simp only [Layout.isAlphanum_iff, Char.le_def, UInt32.le_iff_toNat_le] at h
    change (65 ≤ c.toNat ∧ c.toNat ≤ 90) ∨ (97 ≤ c.toNat ∧ c.toNat ≤ 122) ∨
      (48 ≤ c.toNat ∧ c.toNat ≤ 57) at h
    omega
  all_goals decide

/-- What a shell leaves alone does not break a name either. -/
theorem breaksName_of_isBare {c : Char} (h : Shell.isBare c = true) : breaksName c = false := by
  have hquotes : c ∉ [backquote, '"', '\'', '\\'] := by
    intro hin
    simp only [List.mem_cons, List.not_mem_nil, or_false] at hin
    rcases hin with rfl | rfl | rfl | rfl <;> cases h
  have hblank : Text.Blank.isBlank c = false := by
    obtain ⟨hlow, hhigh⟩ := toNat_of_isBare h
    simp only [Text.Blank.isBlank, Text.Printable.inRanges, Text.Blank.blankRanges, List.any_cons,
      List.any_nil, Bool.or_false, Bool.or_eq_false_iff, Bool.and_eq_false_iff, decide_eq_false_iff_not]
    omega
  rw [breaksName, hblank, Bool.or_false, ← Bool.not_eq_true, List.contains_iff_mem]
  exact hquotes

theorem text_toList (project : ProjectId) (dataset table : String) :
    (text project dataset table).toList =
      opening ++ backquote :: ((source project dataset table).toList ++ backquote :: closing) := by
  rw [text, String.toList_append, String.toList_append, head_parts.1, tail_parts.1]
  simp

variable {dataset table : String}

theorem breaksName_of_mem_source (project : ProjectId) (hdataset : Layout.isIdentifier dataset = true)
    (htable : Layout.isIdentifier table = true) {c : Char}
    (hc : c ∈ (source project dataset table).toList) : breaksName c = false := by
  apply breaksName_of_isBare
  simp only [source, String.toList_append, List.mem_append] at hc
  rcases hc with (((hc | hc) | hc) | hc) | hc
  · exact project.isBare_of_mem hc
  · obtain rfl : c = '.' := by simpa using hc
    rfl
  · exact Layout.isBare_of_isIdentifier hdataset hc
  · obtain rfl : c = '.' := by simpa using hc
    rfl
  · exact Layout.isBare_of_isIdentifier htable hc

theorem backquote_not_mem_source (project : ProjectId) (hdataset : Layout.isIdentifier dataset = true)
    (htable : Layout.isIdentifier table = true) :
    backquote ∉ (source project dataset table).toList := by
  intro hin
  have hbreaks := breaksName_of_mem_source project hdataset htable hin
  cases hbreaks

theorem count_text (project : ProjectId) (hdataset : Layout.isIdentifier dataset = true)
    (htable : Layout.isIdentifier table = true) :
    (text project dataset table).toList.count backquote = 2 := by
  have hname := backquote_not_mem_source project hdataset htable
  rw [text_toList, List.count_append, List.count_cons_self, List.count_append, List.count_cons_self,
    List.count_eq_zero.2 head_parts.2, List.count_eq_zero.2 hname,
    List.count_eq_zero.2 tail_parts.2]

/-- A query is cut at its backquotes into its fixed ends and the name between them. -/
theorem splitOn_text (project : ProjectId) (hdataset : Layout.isIdentifier dataset = true)
    (htable : Layout.isIdentifier table = true) :
    (text project dataset table).toList.splitOn backquote =
      [opening, (source project dataset table).toList, closing] := by
  have hname := backquote_not_mem_source project hdataset htable
  have hparts : ∀ part ∈ [opening, (source project dataset table).toList, closing], backquote ∉ part := by
    simp only [List.forall_mem_cons]
    exact ⟨head_parts.2, hname, tail_parts.2, List.forall_mem_nil _⟩
  have hsplit := List.splitOn_intercalate backquote hparts (List.cons_ne_nil _ _)
  rw [text_toList]
  simpa using hsplit

/-- The name between the backquotes tells the project, the dataset and the table. -/
theorem eq_of_text_eq {project project' : ProjectId} {dataset' table' : String}
    (hdataset : Layout.isIdentifier dataset = true) (htable : Layout.isIdentifier table = true)
    (hdataset' : Layout.isIdentifier dataset' = true) (htable' : Layout.isIdentifier table' = true)
    (h : text project dataset table = text project' dataset' table') :
    project.text = project'.text ∧ dataset = dataset' ∧ table = table' := by
  have hparts := splitOn_text project hdataset htable
  rw [h, splitOn_text project' hdataset' htable'] at hparts
  have hsource : source project' dataset' table' = source project dataset table := by
    simpa [String.toList_inj] using hparts
  have hresource := Resource.ofDotted?_of_isIdentifier project.text hdataset htable
  have hresource' := Resource.ofDotted?_of_isIdentifier project'.text hdataset' htable'
  change Resource.ofDotted? (source project dataset table) = _ at hresource
  change Resource.ofDotted? (source project' dataset' table') = _ at hresource'
  rw [hsource, hresource] at hresource'
  simpa using hresource'

end Query

/-- The query that a command makes a view of. -/
def Command.viewQuery? (c : Command) : Option String :=
  if c.program = "bq" ∧ c.arguments[2]? = some "--view" then c.arguments[3]? else none

namespace Plan

variable {layout : Layout} {project : ProjectId}

theorem tableStepAt_viewQuery? (i : Nat) (table : Table) :
    (tableStepAt layout project i table).command.viewQuery? = none := by
  have hother : "bqschemaupdater" ≠ "bq" := by decide
  exact if_neg fun h => hother h.1

theorem viewStep_viewQuery? :
    (viewStep layout project).command.viewQuery? =
      some (Query.text project layout.dataset layout.view.source) :=
  if_pos ⟨rfl, rfl⟩

/-- The queries that the commands of a plan make views of. -/
def viewQueries (plan : Plan) : List String :=
  plan.steps.filterMap (·.command.viewQuery?)

theorem viewQueries_ofLayout (layout : Layout) (project : ProjectId) :
    (ofLayout layout project).viewQueries =
      [Query.text project layout.dataset layout.view.source] := by
  have htables : (tableSteps layout project).filterMap (·.command.viewQuery?) = [] := by
    rw [List.filterMap_eq_nil_iff]
    intro step hstep
    obtain ⟨i, hi⟩ := List.mem_iff_getElem?.1 hstep
    rw [tableSteps_getElem?] at hi
    obtain ⟨table, -, rfl⟩ := Option.map_eq_some_iff.1 hi
    exact tableStepAt_viewQuery? i table
  have hview : [viewStep layout project].filterMap (·.command.viewQuery?) =
      [Query.text project layout.dataset layout.view.source] :=
    List.filterMap_cons_some viewStep_viewQuery?
  rw [viewQueries, ofLayout, List.filterMap_append, List.filterMap_append, htables, hview]
  rfl

/-- A plan for a project and a valid layout has one query. It is cut at its two backquotes into ends that are
the same for every plan and a name, which holds nothing that could break it and whose last two dots part
the project, the dataset and the source of the view. So only a plan for the same three has that query. -/
theorem viewQueries_of_valid {raw : String} {project : ProjectId} {layout : Layout}
    (hproject : ProjectId.parse? raw = some project) (hlayout : layout.validate = .ok layout) :
    ∃ (query : String) (name : List Char), (ofLayout layout project).viewQueries = [query] ∧
      query.toList.count Query.backquote = 2 ∧
      query.toList.splitOn Query.backquote = [Query.opening, name, Query.closing] ∧
      (∀ c ∈ name, Query.breaksName c = false) ∧
      Resource.ofDotted? (.ofList name) = some ⟨raw, layout.dataset, layout.view.source⟩ ∧
      ∀ (raw' : String) (project' : ProjectId) (layout' : Layout),
        ProjectId.parse? raw' = some project' → layout'.validate = .ok layout' →
        ((ofLayout layout' project').viewQueries = [query] ↔
          raw' = raw ∧ layout'.dataset = layout.dataset ∧ layout'.view.source = layout.view.source) := by
  have hvalid := (Layout.validate_eq_ok_iff.1 hlayout).2
  obtain rfl := ProjectId.parse?_eq_some_iff.1 hproject
  refine ⟨_, _, viewQueries_ofLayout layout project, ?_,
    Query.splitOn_text project hvalid.dataset hvalid.viewSource,
    fun c => Query.breaksName_of_mem_source project hvalid.dataset hvalid.viewSource, ?_, ?_⟩
  · exact Query.count_text project hvalid.dataset hvalid.viewSource
  · rw [String.ofList_toList]
    exact Resource.ofDotted?_of_isIdentifier project.text hvalid.dataset hvalid.viewSource
  · intro raw' project' layout' hproject' hlayout'
    have hvalid' := (Layout.validate_eq_ok_iff.1 hlayout').2
    obtain rfl := ProjectId.parse?_eq_some_iff.1 hproject'
    rw [viewQueries_ofLayout, List.singleton_inj]
    constructor
    · exact Query.eq_of_text_eq hvalid'.dataset hvalid'.viewSource hvalid.dataset hvalid.viewSource
    · rintro ⟨htext, hdataset, hsource⟩
      rw [Query.text, Query.source, htext, hdataset, hsource]
      rfl

/-- A project id with a dot and a colon of its own; the same layout for another project has another query. -/
theorem viewQueries_of_valid_scoped :
    let project : ProjectId := ⟨"google.com:swarm-dev", by decide⟩
    let other : ProjectId := ⟨"swarm-dev", by decide⟩
    ProjectId.parse? "google.com:swarm-dev" = some project ∧
      Layout.standard.validate = .ok Layout.standard ∧
      ∃ (query : String) (name : List Char),
        (ofLayout Layout.standard project).viewQueries = [query] ∧
        query.toList.splitOn Query.backquote = [Query.opening, name, Query.closing] ∧
        Resource.ofDotted? (.ofList name) = some ⟨"google.com:swarm-dev", "swarming", "bot_events"⟩ ∧
        (ofLayout Layout.standard other).viewQueries ≠ [query] := by
  intro project other
  have hproject : ProjectId.parse? "google.com:swarm-dev" = some project := project.parse?_text
  have hvalid : Layout.standard.validate = .ok Layout.standard := by decide +kernel
  obtain ⟨query, name, hquery, -, hcut, -, hname, honly⟩ := viewQueries_of_valid hproject hvalid
  refine ⟨hproject, hvalid, query, name, hquery, hcut, hname, fun hother => ?_⟩
  obtain ⟨hraw, -, -⟩ := (honly "swarm-dev" other Layout.standard other.parse?_text hvalid).1 hother
  exact absurd hraw (by decide)

end Plan

end Provisioning
