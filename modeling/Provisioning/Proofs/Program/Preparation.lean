import Provisioning.Program
import Provisioning.Proofs.Except
import Provisioning.Proofs.Layout.Validity

/-! # What comes before the commands

A call first looks its tools up, then reads the project id and then takes its layout from a file or from
the standard one. Each of these is told by what it comes to, whatever else goes wrong. -/
namespace Provisioning

theorem Tool.lookUp_eq_ok_iff (find? : String → Option Path) (tools : List Tool) :
    (lookUp find? tools).1 = .ok () ↔ ∀ tool ∈ tools, ∃ file, find? tool.name = some file := by
  induction tools with
  | nil => simp [lookUp]
  | cons tool rest ih =>
    rw [List.forall_mem_cons, ← ih]
    cases h : find? tool.name <;> simp [lookUp, h]

/-- Every required tool is found along the search path. -/
def Machine.HasTools {σ : Type} (m : Machine σ) (s : σ) : Prop :=
  ∀ tool ∈ Tool.required, ∃ p file, m.searchPath = some p ∧
    p.find? (m.surroundings s) m.directory.path tool.name = some file

theorem Machine.hasTools_iff {σ : Type} (m : Machine σ) (s : σ) :
    m.HasTools s ↔
      (Tool.lookUpRequired (m.surroundings s) m.searchPath m.directory.path).1 = .ok () := by
  rw [Tool.lookUpRequired, Tool.lookUp_eq_ok_iff]
  cases h : m.searchPath <;> simp [HasTools, h]

namespace Layout

theorem standard_isValid : standard.IsValid :=
  (violation?_eq_none_iff standard).1 (by decide +kernel)

/-- Whatever was loaded has passed validation. -/
theorem isValid_of_load {read : Path → Except SystemError (List UInt8)} {path : Path}
    {layout : Layout} (h : load read path = .ok layout) : layout.IsValid := by
  unfold load at h
  split at h
  · cases h
  · split at h
    · cases h
    · obtain ⟨rfl, hvalid⟩ := validate_eq_ok_iff.1 (mapError_eq_ok.1 h)
      exact hvalid

/-- A file is malformed if what is read of it is no configuration, for the same reason. -/
theorem parse_document_of_load {read : Path → Except SystemError (List UInt8)} {path path' : Path}
    {reason : Malformed} (h : load read path = .error (.malformed path' reason)) :
    parse (document read path) = .error reason := by
  unfold load at h
  split at h
  · cases h
  · next text htext =>
    rw [document, htext]
    split at h
    · next hparse =>
      cases h
      exact hparse
    · obtain ⟨_, -, hinvalid⟩ := mapError_eq_error.1 h
      cases hinvalid

end Layout

namespace Options

/-- The options lead to a layout: the one in their file, or else the standard one, with their schema
directory in place of its own. -/
def LeadsTo (read : Path → Except SystemError (List UInt8)) (o : Options) (layout : Layout) : Prop :=
  ∃ base,
    (match o.configuration with
    | some path => Layout.load read path = .ok base
    | none => base = Layout.standard) ∧
    layout = { base with schemaDirectory := o.schemaDirectory.getD base.schemaDirectory }

/-- Whatever layout the options lead to is valid; where its directory is does not matter. -/
theorem LeadsTo.isValid {read : Path → Except SystemError (List UInt8)} {o : Options}
    {layout : Layout} (h : o.LeadsTo read layout) : layout.IsValid := by
  obtain ⟨base, hbase, rfl⟩ := h
  have hvalid : base.IsValid := by
    split at hbase
    · exact Layout.isValid_of_load hbase
    · subst hbase
      exact Layout.standard_isValid
  exact ⟨hvalid.dataset, hvalid.viewName, hvalid.viewSource, hvalid.tableNames, hvalid.tables_ne_nil,
    hvalid.complete, hvalid.distinct⟩

end Options

namespace Program

variable {σ : Type} (m : Machine σ) (s : σ) (o : Options)

theorem layout_eq_ok_iff (l : Layout) : layout m s o = .ok l ↔ o.LeadsTo (m.read s) l := by
  unfold layout Options.LeadsTo
  cases o.configuration with
  | none =>
    simp only [bind_eq_ok, pure_eq_ok, Except.ok.injEq]
    exact exists_congr fun _ => and_congr_left' eq_comm
  | some path => simp only [bind_eq_ok, mapError_eq_ok, pure_eq_ok]

/-- Only a file can keep the options from leading to a layout. -/
theorem layout_eq_error_iff (failure : Failure) :
    layout m s o = .error failure ↔ ∃ path error, o.configuration = some path ∧
      Layout.load (m.read s) path = .error error ∧
      failure = .layout error (Layout.document (m.read s) path) := by
  unfold layout
  cases o.configuration with
  | none => simp
  | some path =>
    simp only [bind_eq_error, mapError_eq_error, pure_ne_error, and_false, exists_false, or_false,
      Option.some.injEq, exists_and_left, exists_eq_left', eq_comm (a := failure)]

theorem plan_eq_ok_iff (p : Plan) :
    plan m s o = .ok p ↔ ∃ project layout, ProjectId.parse? o.project = some project ∧
      o.LeadsTo (m.read s) layout ∧ p = Plan.ofLayout layout project := by
  simp only [plan, bind_eq_ok, ProjectId.parse_eq_ok_iff, layout_eq_ok_iff, pure_eq_ok,
    exists_and_left]

/-- Without a plan, the text given for the project is no id, or else there is no layout. -/
theorem plan_eq_error_iff (failure : Failure) :
    plan m s o = .error failure ↔
      ProjectId.parse? o.project = none ∧ failure = .invalidProjectId o.project ∨
      (∃ project, ProjectId.parse? o.project = some project) ∧ layout m s o = .error failure := by
  simp only [plan, bind_eq_error, ProjectId.parse_eq_ok_iff, ProjectId.parse_eq_error_iff, pure_ne_error,
    and_false, exists_false, or_false, exists_and_right]

end Program

end Provisioning
