import Provisioning.Proofs.Layout.Validity
import Provisioning.Proofs.Plan.NulFree

/-! # What the lines of a plan tell

A plan is shown by the line of each command and the directory it runs in. The lines are read back as the
commands, and in their words every text of the layout stands behind texts that the project and the dataset
fix by then. So nothing that is configured is lost, and two plans that look alike are the same. -/
namespace Provisioning

namespace Command

/-- What is shown of a command: where it runs and its line. -/
def shown (c : Command) : Option Path × String :=
  (c.directory, c.line)

theorem words_eq_of_line_eq {c d : Command} (hc : c.IsNulFree) (hd : d.IsNulFree)
    (h : c.line = d.line) : c.words = d.words := by
  have hread := read_line_eq hc
  rw [h, read_line_eq hd] at hread
  have hwords : d.words.map String.toList = c.words.map String.toList :=
    congrArg Shell.Reading.words (Option.some.inj hread)
  exact ((List.map_inj_right fun _ _ => String.toList_inj.1).1 hwords).symm

theorem eq_of_shown_eq {c d : Command} (hc : c.IsNulFree) (hd : d.IsNulFree)
    (h : c.shown = d.shown) : c = d := by
  obtain ⟨hdirectory, hline⟩ := Prod.mk.inj h
  obtain ⟨hprogram, harguments⟩ := List.cons.inj (words_eq_of_line_eq hc hd hline)
  cases c
  cases d
  simp only [Command.mk.injEq]
  exact ⟨hprogram, harguments, hdirectory⟩

theorem argument_eq {c d : Command} (h : c = d) (n : Nat) : c.arguments[n]? = d.arguments[n]? := by
  rw [h]

end Command

namespace Plan

/-- What is shown of a plan: for each step in order where its command runs, and the line. -/
def shown (plan : Plan) : List (Option Path × String) :=
  plan.steps.map fun step => step.command.shown

/-! ## What each command tells -/

section

variable {layout layout' : Layout} {project project' : ProjectId}

theorem project_eq_of_enableStep (h : (enableStep project).command = (enableStep project').command) :
    project = project' := by
  have htext : project.text = project'.text := Option.some.inj (Command.argument_eq h 3)
  have hparse : ProjectId.parse? project.text = some project' :=
    ProjectId.parse?_eq_some_iff.2 htext.symm
  exact Option.some.inj (project.parse?_text.symm.trans hparse)

/-- The location stands behind its option, and the dataset behind the project. -/
theorem eq_of_datasetStep (h : (datasetStep layout project).command = (datasetStep layout' project).command) :
    layout.location = layout'.location ∧ layout.description = layout'.description ∧
      layout.dataset = layout'.dataset := by
  have hlocation : "--location=" ++ layout.location = "--location=" ++ layout'.location :=
    Option.some.inj (Command.argument_eq h 0)
  have hdataset : project.text ++ ":" ++ layout.dataset = project.text ++ ":" ++ layout'.dataset :=
    Option.some.inj (Command.argument_eq h 5)
  rw [String.append_right_inj] at hlocation hdataset
  exact ⟨hlocation, Option.some.inj (Command.argument_eq h 4), hdataset⟩

/-- A table's name stands behind the project and the dataset. -/
theorem eq_of_tableStepAt {i : Nat} {table table' : Table} (hdataset : layout.dataset = layout'.dataset)
    (h : (tableStepAt layout project i table).command =
      (tableStepAt layout' project i table').command) :
    table = table' ∧ layout.partitionExpiration = layout'.partitionExpiration ∧
      layout.schemaDirectory = layout'.schemaDirectory := by
  have hmessage : table.message = table'.message := Option.some.inj (Command.argument_eq h 2)
  have hname : tableTarget project layout.dataset table.name =
      tableTarget project layout'.dataset table'.name := Option.some.inj (Command.argument_eq h 4)
  have hfield : table.partitioningField = table'.partitioningField :=
    Option.some.inj (Command.argument_eq h 6)
  rw [tableTarget, tableTarget, hdataset, String.append_right_inj] at hname
  refine ⟨?_, Option.some.inj (Command.argument_eq h 8),
    Option.some.inj (congrArg Command.directory h)⟩
  cases table
  cases table'
  simp only [Table.mk.injEq]
  exact ⟨hmessage, hname, hfield⟩

/-- The view's name stands in the resource it becomes, and its source between the ends of the query. -/
theorem eq_of_viewStep (hdataset : layout.dataset = layout'.dataset)
    (h : (viewStep layout project).command = (viewStep layout' project).command) :
    layout.view = layout'.view := by
  have hsource : Query.text project layout.dataset layout.view.source =
      Query.text project layout'.dataset layout'.view.source := Option.some.inj (Command.argument_eq h 3)
  have hname : resource project layout.dataset layout.view.name =
      resource project layout'.dataset layout'.view.name := Option.some.inj (Command.argument_eq h 4)
  rw [Query.text, Query.text, String.append_left_inj, String.append_right_inj, Query.source, Query.source,
    hdataset, String.append_right_inj] at hsource
  rw [resource, resource, hdataset, String.append_right_inj] at hname
  cases hview : layout.view
  cases hview' : layout'.view
  rw [hview, hview'] at hsource hname
  simp only [View.mk.injEq]
  exact ⟨hname, hsource⟩

end

/-! ## What the plan tells -/

variable {layout layout' : Layout} {project project' : ProjectId}

/-- Where a plan and another show the same, their steps have the same commands. -/
theorem command_eq_of_shown_eq (hfree : layout.IsNulFree) (hfree' : layout'.IsNulFree)
    (h : (ofLayout layout project).shown = (ofLayout layout' project').shown) {k : Nat} {step step' : Step}
    (hstep : (ofLayout layout project).steps[k]? = some step)
    (hstep' : (ofLayout layout' project').steps[k]? = some step') : step.command = step'.command := by
  refine Command.eq_of_shown_eq (command_isNulFree hfree hstep) (command_isNulFree hfree' hstep') ?_
  have hk := congrArg (·[k]?) h
  simpa [shown, hstep, hstep'] using hk

theorem tables_length_of_shown_eq
    (h : (ofLayout layout project).shown = (ofLayout layout' project').shown) :
    layout.tables.length = layout'.tables.length := by
  have hlength := congrArg List.length h
  simpa [shown, steps_length] using hlength

/-- The tables of two plans that show the same are told one by one, and with them what all tables share. -/
theorem tables_eq_of_shown_eq (hfree : layout.IsNulFree) (hfree' : layout'.IsNulFree)
    (hdataset : layout.dataset = layout'.dataset)
    (h : (ofLayout layout project).shown = (ofLayout layout' project).shown) :
    layout.tables = layout'.tables ∧ (layout.tables ≠ [] →
      layout.partitionExpiration = layout'.partitionExpiration ∧
      layout.schemaDirectory = layout'.schemaDirectory) := by
  have hlength := tables_length_of_shown_eq h
  have htable : ∀ (i : Nat) (hi : i < layout.tables.length) (hi' : i < layout'.tables.length),
      layout.tables[i] = layout'.tables[i] ∧
        layout.partitionExpiration = layout'.partitionExpiration ∧
        layout.schemaDirectory = layout'.schemaDirectory := by
    intro i hi hi'
    exact eq_of_tableStepAt hdataset (command_eq_of_shown_eq hfree hfree' h
      (steps_getElem?_table (List.getElem?_eq_getElem hi))
      (steps_getElem?_table (List.getElem?_eq_getElem hi')))
  refine ⟨List.ext_getElem hlength fun i hi hi' => (htable i hi hi').1, fun hne => ?_⟩
  have hfirst := List.length_pos_of_ne_nil hne
  exact (htable 0 hfirst (hlength ▸ hfirst)).2

/-- Two plans for valid layouts without a NUL show the same only if they are for the same project and the
same layout. -/
theorem shown_eq_iff (hvalid : layout.validate = .ok layout) (hvalid' : layout'.validate = .ok layout')
    (hfree : layout.IsNulFree) (hfree' : layout'.IsNulFree) :
    (ofLayout layout project).shown = (ofLayout layout' project').shown ↔
      project = project' ∧ layout = layout' := by
  constructor
  · intro h
    obtain rfl : project = project' :=
      project_eq_of_enableStep (command_eq_of_shown_eq hfree hfree' h (k := 0) rfl rfl)
    obtain ⟨hlocation, hdescription, hdataset⟩ :=
      eq_of_datasetStep (command_eq_of_shown_eq hfree hfree' h (k := 2) rfl rfl)
    obtain ⟨htables, hshared⟩ := tables_eq_of_shown_eq hfree hfree' hdataset h
    obtain ⟨hexpiration, hdirectory⟩ := hshared (Layout.validate_eq_ok_iff.1 hvalid).2.tables_ne_nil
    have hview : layout.view = layout'.view := by
      refine eq_of_viewStep hdataset
        (command_eq_of_shown_eq hfree hfree' h steps_getElem?_view ?_)
      rw [htables]
      exact steps_getElem?_view
    refine ⟨rfl, ?_⟩
    cases layout
    cases layout'
    simp only [Layout.mk.injEq]
    exact ⟨hdataset, hlocation, hdescription, hdirectory, hexpiration, htables, hview⟩
  · rintro ⟨rfl, rfl⟩
    rfl

/-- The order of the tables is seen, also where the project has a domain. -/
theorem shown_eq_iff_reversed :
    let project : ProjectId := ⟨"google.com:swarm-dev", by decide⟩
    let reversed : Layout := { Layout.standard with tables := Layout.standard.tables.reverse }
    Layout.standard.validate = .ok Layout.standard ∧ reversed.validate = .ok reversed ∧
      (ofLayout Layout.standard project).shown ≠ (ofLayout reversed project).shown := by
  intro project reversed
  have hvalid : Layout.standard.validate = .ok Layout.standard := by decide +kernel
  have hvalid' : reversed.validate = .ok reversed := by decide +kernel
  have hfree : Layout.standard.IsNulFree := Layout.standard_isNulFree
  have hfree' : reversed.IsNulFree :=
    { dataset := hfree.dataset
      location := hfree.location
      description := hfree.description
      partitionExpiration := hfree.partitionExpiration
      tables := fun table htable => hfree.tables table (List.mem_reverse.1 htable)
      viewName := hfree.viewName
      viewSource := hfree.viewSource }
  have hother : Layout.standard ≠ reversed := by decide
  refine ⟨hvalid, hvalid', fun h => hother ?_⟩
  exact ((shown_eq_iff hvalid hvalid' hfree hfree').1 h).2

end Plan

end Provisioning
