import Provisioning.Plan

/-! # The steps of a plan

Where each step of the plan for a layout stands. Behind the first three comes one for each table, in the
order of the layout, and then the one of the view. -/
namespace Provisioning.Plan

/-- The step of the table at a position; a note goes with the first. -/
def tableStepAt (layout : Layout) (project : ProjectId) (i : Nat) (table : Table) : Step :=
  { tableStep layout project table with note := if i = 0 then some firstTableNote else none }

/-- What would have to be removed after each step, if it left something behind. -/
def cleanups (layout : Layout) (project : ProjectId) : List (Option Command) :=
  [none, none, none] ++
    (layout.tables.map fun table => some (removal project layout.dataset table.name)) ++
    [some (removal project layout.dataset layout.view.name)]

variable (layout : Layout) (project : ProjectId)

theorem tableSteps_getElem? (i : Nat) :
    (tableSteps layout project)[i]? = layout.tables[i]?.map (tableStepAt layout project i) := by
  unfold tableSteps
  cases layout.tables with
  | nil => simp
  | cons table rest =>
    cases i with
    | zero => simp [tableStepAt]
    | succ i =>
      rw [List.getElem?_cons_succ, List.getElem?_cons_succ, List.getElem?_map]
      rfl

theorem tableSteps_length : (tableSteps layout project).length = layout.tables.length := by
  unfold tableSteps
  cases layout.tables <;> simp

theorem steps_length : (ofLayout layout project).steps.length = layout.tables.length + 4 := by
  simp [ofLayout, tableSteps_length]

variable {layout project}

theorem steps_getElem?_table {i : Nat} {table : Table} (h : layout.tables[i]? = some table) :
    (ofLayout layout project).steps[i + 3]? = some (tableStepAt layout project i table) := by
  have hi : i < (tableSteps layout project).length := by
    rw [tableSteps_length]
    exact (List.getElem?_eq_some_iff.1 h).1
  have hstep := tableSteps_getElem? layout project i
  rw [h] at hstep
  simpa [ofLayout, List.getElem?_append_left hi] using hstep

theorem steps_getElem?_view :
    (ofLayout layout project).steps[layout.tables.length + 3]? = some (viewStep layout project) := by
  simp [ofLayout, ← tableSteps_length layout project]

/-- A step of a plan is one of the first three, that of a table or that of the view. -/
theorem step_cases {k : Nat} {step : Step} (h : (ofLayout layout project).steps[k]? = some step) :
    k = 0 ∧ step = enableStep project ∨ k = 1 ∧ step = grantStep project ∨
      k = 2 ∧ step = datasetStep layout project ∨
      (∃ i table, k = i + 3 ∧ layout.tables[i]? = some table ∧
        step = tableStepAt layout project i table) ∨
      k = layout.tables.length + 3 ∧ step = viewStep layout project := by
  match k with
  | 0 => exact .inl ⟨rfl, (Option.some.inj h).symm⟩
  | 1 => exact .inr (.inl ⟨rfl, (Option.some.inj h).symm⟩)
  | 2 => exact .inr (.inr (.inl ⟨rfl, (Option.some.inj h).symm⟩))
  | i + 3 =>
    refine .inr (.inr (.inr ?_))
    rcases Nat.lt_trichotomy i layout.tables.length with hi | hi | hi
    · have htable := List.getElem?_eq_getElem hi
      rw [steps_getElem?_table htable] at h
      exact .inl ⟨i, _, rfl, htable, (Option.some.inj h).symm⟩
    · subst hi
      rw [steps_getElem?_view] at h
      exact .inr ⟨rfl, (Option.some.inj h).symm⟩
    · have hlength := (List.getElem?_eq_some_iff.1 h).1
      rw [steps_length] at hlength
      omega

/-- Only the step of a table stops a run and leaves something to remove. -/
theorem table_of_stopAndRemove {k : Nat} {step : Step} {cleanup : Command}
    (h : (ofLayout layout project).steps[k]? = some step) (hf : step.onFailure = .stopAndRemove cleanup) :
    ∃ i table, k = i + 3 ∧ layout.tables[i]? = some table ∧
      step = tableStepAt layout project i table ∧
      cleanup = removal project layout.dataset table.name := by
  rcases step_cases h with ⟨-, rfl⟩ | ⟨-, rfl⟩ | ⟨-, rfl⟩ | ⟨i, table, hk, htable, rfl⟩ | ⟨-, rfl⟩
  · cases hf
  · cases hf
  · cases hf
  · cases hf
    exact ⟨i, table, hk, htable, rfl, rfl⟩
  · cases hf

theorem cleanups_eq_map :
    (ofLayout layout project).steps.map (·.onFailure.cleanup?) = cleanups layout project := by
  have htables : (tableSteps layout project).map (·.onFailure.cleanup?) =
      layout.tables.map fun table => some (removal project layout.dataset table.name) := by
    unfold tableSteps
    cases layout.tables with
    | nil => rfl
    | cons table rest =>
      rw [List.map_cons, List.map_map, List.map_cons]
      rfl
  rw [ofLayout, List.map_append, List.map_append, htables]
  rfl

end Provisioning.Plan
