import Mathlib.Data.List.Nodup
import Provisioning.Layout.Validation

/-! # What a valid layout promises

Validation looks at the names first and then goes through the tables with the names of those before them.
That it finds nothing wrong says that every name is an identifier, every table is complete and no name is
given to two resources. -/
namespace Provisioning

/-- A table has a message and a partitioning field. -/
def Table.IsComplete (table : Table) : Prop :=
  table.message ≠ "" ∧ table.partitioningField ≠ ""

theorem Table.isComplete_iff (table : Table) :
    table.IsComplete ↔ (table.message.isEmpty || table.partitioningField.isEmpty) = false := by
  simp [IsComplete]

namespace Layout

/-- The names of the resources in the dataset: those of the tables in order, and then that of the view. -/
def resourceNames (layout : Layout) : List String :=
  layout.tables.map Table.name ++ [layout.view.name]

/-- What validation asks for, whatever the order in which it does. -/
structure IsValid (layout : Layout) : Prop where
  dataset : isIdentifier layout.dataset = true
  viewName : isIdentifier layout.view.name = true
  viewSource : isIdentifier layout.view.source = true
  tableNames : ∀ table ∈ layout.tables, isIdentifier table.name = true
  tables_ne_nil : layout.tables ≠ []
  complete : ∀ table ∈ layout.tables, table.IsComplete
  distinct : layout.resourceNames.Nodup

theorem resourceNames_getElem?_eq_some_iff {layout : Layout} {k : Nat} {name : String} :
    layout.resourceNames[k]? = some name ↔
      (∃ table, layout.tables[k]? = some table ∧ name = table.name) ∨
      k = layout.tables.length ∧ name = layout.view.name := by
  rw [resourceNames, List.getElem?_append, List.length_map, List.getElem?_map, List.getElem?_singleton]
  split
  · next hk =>
    have hne : k ≠ layout.tables.length := Nat.ne_of_lt hk
    simp [hne, eq_comm (a := name)]
  · next hk =>
    have hnone : layout.tables[k]? = none := List.getElem?_eq_none (Nat.le_of_not_lt hk)
    have hview : k - layout.tables.length = 0 ↔ k = layout.tables.length := by omega
    simp [hnone, hview, eq_comm (a := name)]

theorem isAlphanum_iff (c : Char) : c.isAlphanum = true ↔
    ('A' ≤ c ∧ c ≤ 'Z') ∨ ('a' ≤ c ∧ c ≤ 'z') ∨ ('0' ≤ c ∧ c ≤ '9') := by
  delta Char.isAlphanum Char.isAlpha Char.isUpper Char.isLower Char.isDigit
  simp [Char.le_def, or_assoc, UInt32.le_iff_toNat_le]

theorem isIdentifier_iff (text : String) :
    isIdentifier text = true ↔
      text.toList ≠ [] ∧ ∀ c ∈ text.toList, (c.isAlphanum || c == '_') = true := by
  simp [isIdentifier]

/-- Only letters, digits and underscores stand in an identifier. -/
theorem not_mem_of_isIdentifier {text : String} (h : isIdentifier text = true) {c : Char}
    (hc : (c.isAlphanum || c == '_') = false) : c ∉ text.toList := by
  intro hmem
  rw [((isIdentifier_iff text).1 h).2 c hmem] at hc
  cases hc

theorem identifierViolation?_eq_none_iff (layout : Layout) :
    layout.identifierViolation? = none ↔
      isIdentifier layout.dataset = true ∧ isIdentifier layout.view.name = true ∧
      isIdentifier layout.view.source = true ∧
      ∀ table ∈ layout.tables, isIdentifier table.name = true := by
  simp [identifierViolation?, identifiers, List.findSome?_eq_none_iff]

theorem tableViolation?_eq_none_iff (seen : List String) (tables : List Table) :
    tableViolation? seen tables = none ↔
      (∀ table ∈ tables, table.IsComplete) ∧ (tables.map Table.name).Nodup ∧
      ∀ table ∈ tables, table.name ∉ seen := by
  induction tables generalizing seen with
  | nil => simp [tableViolation?]
  | cons table rest ih =>
    by_cases hcomplete : table.IsComplete
    · have hgiven := table.isComplete_iff.1 hcomplete
      by_cases hseen : table.name ∈ seen
      · simp [tableViolation?, hgiven, hseen]
      · -- A later table must have neither the name of this one nor one seen before.
        have hlater : (∀ later ∈ rest, later.name ∉ table.name :: seen) ↔
            table.name ∉ rest.map Table.name ∧ ∀ later ∈ rest, later.name ∉ seen := by
          simp [not_or, forall_and]
        simp only [tableViolation?, hgiven, hseen, ih, hlater, List.map_cons, List.nodup_cons,
          List.forall_mem_cons, hcomplete, List.contains_iff_mem, Bool.false_eq_true, if_false,
          not_false_eq_true, true_and, and_left_comm, and_assoc]
    · have hmissing : (table.message.isEmpty || table.partitioningField.isEmpty) = true := by
        rw [← Bool.not_eq_false]
        exact mt table.isComplete_iff.2 hcomplete
      simp [tableViolation?, hmissing, hcomplete]

theorem violation?_eq_none_iff (layout : Layout) :
    layout.violation? = none ↔ layout.IsValid := by
  have hdistinct : layout.resourceNames.Nodup ↔ (layout.tables.map Table.name).Nodup ∧
      ∀ table ∈ layout.tables, table.name ≠ layout.view.name := by
    simp [resourceNames, List.nodup_append]
  have hparts : layout.violation? = none ↔ layout.identifierViolation? = none ∧
      layout.tables ≠ [] ∧ tableViolation? [] layout.tables = none ∧
      ∀ table ∈ layout.tables, table.name ≠ layout.view.name := by
    unfold violation?
    cases layout.identifierViolation? with
    | some violation => simp
    | none =>
      by_cases hnil : layout.tables = []
      · simp [hnil]
      · cases tableViolation? [] layout.tables <;> simp [hnil]
  rw [hparts, identifierViolation?_eq_none_iff, tableViolation?_eq_none_iff]
  constructor
  · rintro ⟨⟨hdataset, hview, hsource, htables⟩, hnil, ⟨hcomplete, hnodup, -⟩, hother⟩
    exact ⟨hdataset, hview, hsource, htables, hnil, hcomplete, hdistinct.2 ⟨hnodup, hother⟩⟩
  · intro h
    obtain ⟨hnodup, hother⟩ := hdistinct.1 h.distinct
    exact ⟨⟨h.dataset, h.viewName, h.viewSource, h.tableNames⟩, h.tables_ne_nil,
      ⟨h.complete, hnodup, by simp⟩, hother⟩

theorem validate_eq_ok_iff {layout valid : Layout} :
    validate layout = .ok valid ↔ valid = layout ∧ layout.IsValid := by
  rw [← violation?_eq_none_iff]
  unfold validate
  cases layout.violation? <;> simp [eq_comm]

end Layout

end Provisioning
