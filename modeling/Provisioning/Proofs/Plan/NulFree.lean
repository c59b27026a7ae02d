import Provisioning.Proofs.Plan.Steps
import Provisioning.Proofs.Shell.ReadBack

/-! # Plans without a NUL

No machine starts a command that holds a NUL. What a plan adds to the texts of its layout holds none, and
neither does a project id, so only a layout can bring one into a plan. -/
namespace Provisioning

/-- A character is looked for among those a text was made of, not among its octets. -/
theorem not_mem_ofList {c : Char} {text : List Char} (h : c ∉ text) :
    c ∉ (String.ofList text).toList := by
  rwa [String.toList_ofList]

theorem not_mem_append {c : Char} {s t : String} :
    c ∉ (s ++ t).toList ↔ c ∉ s.toList ∧ c ∉ t.toList := by
  simp

namespace ProjectId

theorem isWellFormed_cases {text : List Char} (h : isWellFormed text = true) :
    (∀ c ∈ text, isNameChar c = true) ∨
      ∃ domain name, text = domain ++ ':' :: name ∧
        (∀ c ∈ domain, isDomainChar c = true) ∧ ∀ c ∈ name, isNameChar c = true := by
  unfold isWellFormed at h
  cases hrest : text.dropWhile (· != ':') with
  | nil =>
    simp only [hrest, Bool.and_eq_true] at h
    exact .inl (List.all_eq_true.1 h.2)
  | cons c name =>
    obtain rfl : c = ':' := by
      have hhead := List.head?_dropWhile_not (· != ':') text
      simpa [hrest] using hhead
    simp only [hrest, Bool.and_eq_true] at h
    refine .inr ⟨text.takeWhile (· != ':'), name, ?_, List.all_eq_true.1 h.1.1.2,
      List.all_eq_true.1 h.2⟩
    rw [← hrest, List.takeWhile_append_dropWhile]

theorem nul_not_mem (p : ProjectId) : '\x00' ∉ p.text.toList := by
  intro hnul
  rcases isWellFormed_cases p.wellFormed with hname | ⟨domain, name, htext, hdomain, hname⟩
  · exact absurd (hname _ hnul) (by decide)
  · rw [htext] at hnul
    rcases List.mem_append.1 hnul with hin | hin
    · exact absurd (hdomain _ hin) (by decide)
    · cases hin with
      | tail _ hin => exact absurd (hname _ hin) (by decide)

end ProjectId

/-- No text of the layout holds a NUL; where its directory is does not matter. -/
structure Layout.IsNulFree (layout : Layout) : Prop where
  dataset : '\x00' ∉ layout.dataset.toList
  location : '\x00' ∉ layout.location.toList
  description : '\x00' ∉ layout.description.toList
  partitionExpiration : '\x00' ∉ layout.partitionExpiration.toList
  tables : ∀ table ∈ layout.tables, '\x00' ∉ table.message.toList ∧ '\x00' ∉ table.name.toList ∧
    '\x00' ∉ table.partitioningField.toList
  viewName : '\x00' ∉ layout.view.name.toList
  viewSource : '\x00' ∉ layout.view.source.toList

theorem Layout.standard_isNulFree : Layout.standard.IsNulFree where
  dataset := not_mem_ofList (by decide)
  location := not_mem_ofList (by decide)
  description := not_mem_ofList (by decide)
  partitionExpiration := not_mem_ofList (by decide)
  tables := by
    unfold standard
    simp only [List.forall_mem_cons]
    refine ⟨⟨?_, ?_, ?_⟩, ⟨?_, ?_, ?_⟩, ⟨?_, ?_, ?_⟩, List.forall_mem_nil _⟩ <;>
      exact not_mem_ofList (by decide)
  viewName := not_mem_ofList (by decide)
  viewSource := not_mem_ofList (by decide)

theorem ProjectId.nul_not_mem_qualified (project : ProjectId) {separator dataset name : String}
    (hseparator : '\x00' ∉ separator.toList) (hdataset : '\x00' ∉ dataset.toList)
    (hname : '\x00' ∉ name.toList) :
    '\x00' ∉ (project.text ++ separator ++ dataset ++ "." ++ name).toList := by
  simp only [not_mem_append]
  exact ⟨⟨⟨⟨project.nul_not_mem, hseparator⟩, hdataset⟩, not_mem_ofList (by decide)⟩, hname⟩

namespace Query

theorem nul_not_mem_head : '\x00' ∉ head.toList := by
  unfold head
  rw [not_mem_append, not_mem_append]
  refine ⟨⟨not_mem_ofList ?_, not_mem_ofList ?_⟩, not_mem_ofList ?_⟩ <;> decide

theorem nul_not_mem_tail : '\x00' ∉ tail.toList :=
  not_mem_ofList (by decide)

theorem nul_not_mem_text (project : ProjectId) {dataset table : String}
    (hdataset : '\x00' ∉ dataset.toList) (htable : '\x00' ∉ table.toList) :
    '\x00' ∉ (text project dataset table).toList := by
  unfold text source
  rw [not_mem_append, not_mem_append]
  exact ⟨⟨nul_not_mem_head,
    project.nul_not_mem_qualified (not_mem_ofList (by decide)) hdataset htable⟩, nul_not_mem_tail⟩

end Query

namespace Plan

variable {layout : Layout} {project : ProjectId}

theorem nul_not_mem_resource (hdataset : '\x00' ∉ layout.dataset.toList) {name : String}
    (hname : '\x00' ∉ name.toList) : '\x00' ∉ (resource project layout.dataset name).toList :=
  project.nul_not_mem_qualified (not_mem_ofList (by decide)) hdataset hname

theorem nul_not_mem_tableTarget (hdataset : '\x00' ∉ layout.dataset.toList) {name : String}
    (hname : '\x00' ∉ name.toList) : '\x00' ∉ (tableTarget project layout.dataset name).toList :=
  project.nul_not_mem_qualified (not_mem_ofList (by decide)) hdataset hname

/-- A plan for a layout without a NUL has none in the words of its commands. -/
theorem command_isNulFree (h : layout.IsNulFree) {k : Nat} {step : Step}
    (hstep : (ofLayout layout project).steps[k]? = some step) : step.command.IsNulFree := by
  have hproject := project.nul_not_mem
  rcases step_cases hstep with ⟨-, rfl⟩ | ⟨-, rfl⟩ | ⟨-, rfl⟩ | ⟨i, table, -, htable, rfl⟩ | ⟨-, rfl⟩
  · unfold Command.IsNulFree Command.words enableStep
    simp only [List.forall_mem_cons]
    refine ⟨?_, ?_, ?_, ?_, hproject, ?_, List.forall_mem_nil _⟩ <;> exact not_mem_ofList (by decide)
  · unfold Command.IsNulFree Command.words grantStep
    simp only [List.forall_mem_cons, not_mem_append]
    refine ⟨?_, ?_, ?_, hproject, ?_, ⟨⟨?_, hproject⟩, ?_⟩, ?_, ?_, List.forall_mem_nil _⟩ <;>
      exact not_mem_ofList (by decide)
  · unfold Command.IsNulFree Command.words datasetStep
    simp only [List.forall_mem_cons, not_mem_append]
    refine ⟨?_, ⟨?_, h.location⟩, ?_, ?_, ?_, h.description, ⟨⟨hproject, ?_⟩, h.dataset⟩,
      List.forall_mem_nil _⟩ <;> exact not_mem_ofList (by decide)
  · obtain ⟨hmessage, hname, hfield⟩ := h.tables table (List.mem_of_getElem? htable)
    unfold Command.IsNulFree Command.words tableStepAt tableStep
    simp only [List.forall_mem_cons]
    refine ⟨?_, ?_, ?_, hmessage, ?_, nul_not_mem_tableTarget h.dataset hname, ?_, hfield, ?_,
      h.partitionExpiration, List.forall_mem_nil _⟩ <;> exact not_mem_ofList (by decide)
  · unfold Command.IsNulFree Command.words viewStep
    simp only [List.forall_mem_cons]
    refine ⟨?_, ?_, ?_, ?_, Query.nul_not_mem_text project h.dataset h.viewSource,
      nul_not_mem_resource h.dataset h.viewName, List.forall_mem_nil _⟩ <;>
      exact not_mem_ofList (by decide)

end Plan

end Provisioning
