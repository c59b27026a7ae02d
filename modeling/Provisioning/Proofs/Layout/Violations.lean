import Provisioning.Proofs.Layout.Validity

/-! # The violation that is reported

Every check that validation makes has its place in one order: the names that must be identifiers, then whether
there is a table at all, then the tables one after another, and last the name of the view. A layout passes
if no check fails, and otherwise the violation of the first that does is reported, whatever else is wrong. -/
namespace Provisioning

namespace Layout

/-- A non-empty word of ASCII letters, digits and underscores. -/
def IsWord (text : String) : Prop :=
  text ≠ "" ∧ ∀ c ∈ text.toList,
    ('A' ≤ c ∧ c ≤ 'Z') ∨ ('a' ≤ c ∧ c ≤ 'z') ∨ ('0' ≤ c ∧ c ≤ '9') ∨ c = '_'

theorem isIdentifier_iff_isWord (text : String) : isIdentifier text = true ↔ IsWord text := by
  have hchar (c : Char) : (c.isAlphanum || c == '_') = true ↔
      ('A' ≤ c ∧ c ≤ 'Z') ∨ ('a' ≤ c ∧ c ≤ 'z') ∨ ('0' ≤ c ∧ c ≤ '9') ∨ c = '_' := by
    simp [isAlphanum_iff, or_assoc]
  simp only [isIdentifier_iff, IsWord, hchar, ne_eq, String.toList_eq_nil_iff]

/-! ## Layouts that pass -/

variable {layout : Layout} {violation : Violation}

theorem isValid_iff :
    layout.IsValid ↔
      (IsWord layout.dataset ∧ IsWord layout.view.name ∧ IsWord layout.view.source ∧
        ∀ table ∈ layout.tables, IsWord table.name) ∧
      layout.tables ≠ [] ∧
      (∀ table ∈ layout.tables, table.message ≠ "" ∧ table.partitioningField ≠ "") ∧
      (layout.tables.map Table.name).Nodup ∧ layout.view.name ∉ layout.tables.map Table.name := by
  have hdistinct : layout.resourceNames.Nodup ↔
      (layout.tables.map Table.name).Nodup ∧ layout.view.name ∉ layout.tables.map Table.name := by
    rw [resourceNames, List.nodup_append]
    simp
  simp only [← isIdentifier_iff_isWord]
  constructor
  · intro h
    exact ⟨⟨h.dataset, h.viewName, h.viewSource, h.tableNames⟩, h.tables_ne_nil, h.complete,
      hdistinct.1 h.distinct⟩
  · rintro ⟨⟨hdataset, hview, hsource, hnames⟩, hne, hcomplete, hapart⟩
    exact ⟨hdataset, hview, hsource, hnames, hne, hcomplete, hdistinct.2 hapart⟩

theorem isValid_of_perm {tables : List Table} (h : tables.Perm layout.tables) :
    { layout with tables := tables }.IsValid ↔ layout.IsValid := by
  have hnames := h.map Table.name
  have hne : tables ≠ [] ↔ layout.tables ≠ [] := by
    rw [← List.length_pos_iff, ← List.length_pos_iff, h.length_eq]
  simp only [isValid_iff, h.mem_iff, hnames.mem_iff, hnames.nodup_iff, hne]

theorem validate_eq_ok_self_iff : layout.validate = .ok layout ↔ layout.IsValid := by
  rw [validate_eq_ok_iff, and_iff_right rfl]

theorem not_nodup_of_repeated {tables : List Table} {i j : Nat} {table earlier : Table}
    (htable : tables[i]? = some table) (hj : j < i) (hearlier : tables[j]? = some earlier)
    (hname : earlier.name = table.name) : ¬ (tables.map Table.name).Nodup := by
  intro hdistinct
  have hi : j < (tables.map Table.name).length := by
    rw [List.length_map]
    exact (List.getElem?_eq_some_iff.1 hearlier).1
  have hsame : (tables.map Table.name)[j]? = (tables.map Table.name)[i]? := by
    simp [htable, hearlier, hname]
  exact absurd ((List.getElem?_inj hi hdistinct).1 hsame) (Nat.ne_of_lt hj)

/-! ## Checks -/

/-- A check that validation makes; a table is told by its position. -/
inductive Check where
  | dataset
  | viewName
  | viewSource
  | tableName (i : Nat)
  | someTable
  | completeTable (i : Nat)
  | newName (i : Nat)
  | viewApart
deriving DecidableEq, Repr

namespace Check

/-- Which checks are made before which, as far as it does not depend on the position of a table. -/
def stage : Check → Nat
  | .dataset => 0
  | .viewName => 1
  | .viewSource => 2
  | .tableName _ => 3
  | .someTable => 4
  | .completeTable _ | .newName _ => 5
  | .viewApart => 6

/-- The turn of a check in its stage: a table is complete before its name is looked at. -/
def turn : Check → Nat
  | .tableName i => i
  | .completeTable i => 2 * i
  | .newName i => 2 * i + 1
  | _ => 0

/-- A check is made before another. -/
def Precedes (check other : Check) : Prop :=
  check.stage < other.stage ∨ check.stage = other.stage ∧ check.turn < other.turn

theorem eq_of_not_precedes {check other : Check} (h : ¬ check.Precedes other)
    (h' : ¬ other.Precedes check) : check = other := by
  unfold Precedes at h h'
  have hstage : check.stage = other.stage := by omega
  have hturn : check.turn = other.turn := by omega
  cases check <;> cases other <;> simp_all [stage, turn] <;> omega

/-- The text that a check looks at; whether there is a table is no matter of any text. -/
def value? (layout : Layout) : Check → Option String
  | .dataset => layout.dataset
  | .viewName | .viewApart => layout.view.name
  | .viewSource => layout.view.source
  | .tableName i | .completeTable i | .newName i => layout.tables[i]?.map Table.name
  | .someTable => none

/-- A check fails, and what is wrong then. -/
inductive Fails (layout : Layout) : Check → Violation → Prop
  | dataset : ¬ IsWord layout.dataset → Fails layout .dataset (.notIdentifier "dataset" layout.dataset)
  | viewName : ¬ IsWord layout.view.name →
      Fails layout .viewName (.notIdentifier "view.name" layout.view.name)
  | viewSource : ¬ IsWord layout.view.source →
      Fails layout .viewSource (.notIdentifier "view.source_table" layout.view.source)
  | tableName {i : Nat} {table : Table} : layout.tables[i]? = some table → ¬ IsWord table.name →
      Fails layout (.tableName i) (.notIdentifier "tables.table" table.name)
  | someTable : layout.tables = [] → Fails layout .someTable .noTables
  | completeTable {i : Nat} {table : Table} : layout.tables[i]? = some table →
      table.message = "" ∨ table.partitioningField = "" →
      Fails layout (.completeTable i) (.incompleteTable table.name)
  | newName {i j : Nat} {table earlier : Table} : layout.tables[i]? = some table → j < i →
      layout.tables[j]? = some earlier → earlier.name = table.name →
      Fails layout (.newName i) (.repeatedTable table.name)
  | viewApart {table : Table} : table ∈ layout.tables → table.name = layout.view.name →
      Fails layout .viewApart (.viewNamedAsTable layout.view.name)

/-- A check fails, and none that is made before it does. -/
def FailsFirst (layout : Layout) (check : Check) (violation : Violation) : Prop :=
  Fails layout check violation ∧
    ∀ other violation', Fails layout other violation' → ¬ other.Precedes check

variable {check : Check}

/-- What is wrong depends on the check alone, and is said about the text it looks at. -/
theorem Fails.unique {violation' : Violation} (h : Fails layout check violation)
    (h' : Fails layout check violation') : violation = violation' := by
  cases h with
  | dataset | viewName | viewSource | someTable | viewApart =>
    cases h'
    rfl
  | tableName htable =>
    cases h' with
    | tableName htable' =>
      cases htable.symm.trans htable'
      rfl
  | completeTable htable =>
    cases h' with
    | completeTable htable' =>
      cases htable.symm.trans htable'
      rfl
  | newName htable =>
    cases h' with
    | newName htable' =>
      cases htable.symm.trans htable'
      rfl

theorem FailsFirst.unique {other : Check} {violation' : Violation}
    (h : FailsFirst layout check violation) (h' : FailsFirst layout other violation') :
    violation = violation' := by
  obtain rfl : check = other := eq_of_not_precedes (h'.2 _ _ h.1) (h.2 _ _ h'.1)
  exact h.1.unique h'.1

theorem Fails.not_isValid (h : Fails layout check violation) : ¬ layout.IsValid := by
  rw [isValid_iff]
  rintro ⟨⟨hdataset, hview, hsource, hnames⟩, hne, hcomplete, hdistinct, hapart⟩
  cases h with
  | dataset hword => exact hword hdataset
  | viewName hword => exact hword hview
  | viewSource hword => exact hword hsource
  | tableName htable hword => exact hword (hnames _ (List.mem_of_getElem? htable))
  | someTable hnil => exact hne hnil
  | completeTable htable hmissing =>
    obtain ⟨hmessage, hfield⟩ := hcomplete _ (List.mem_of_getElem? htable)
    exact hmissing.elim hmessage hfield
  | newName htable hj hearlier hname =>
    exact not_nodup_of_repeated htable hj hearlier hname hdistinct
  | viewApart hin hname => exact hapart (List.mem_map.2 ⟨_, hin, hname⟩)

theorem Fails.message (h : Fails layout check violation) :
    (check.value? layout = none ∧ violation.message = "no tables configured") ∨
      ∃ value before after, check.value? layout = some value ∧
        violation.message = before ++ Text.Quoted.quote value ++ after := by
  cases h with
  | dataset => exact .inr ⟨_, _, "", rfl, String.append_empty.symm⟩
  | viewName => exact .inr ⟨_, _, "", rfl, String.append_empty.symm⟩
  | viewSource => exact .inr ⟨_, _, "", rfl, String.append_empty.symm⟩
  | tableName htable =>
    exact .inr ⟨_, _, "", by simp [value?, htable], String.append_empty.symm⟩
  | someTable => exact .inl ⟨rfl, rfl⟩
  | completeTable htable => exact .inr ⟨_, _, _, by simp [value?, htable], rfl⟩
  | newName htable => exact .inr ⟨_, _, _, by simp [value?, htable], rfl⟩
  | viewApart => exact .inr ⟨_, _, _, rfl, rfl⟩

/-! ## Names -/

/-- The check of a name, by its position among all that must be identifiers. -/
def ofName : Nat → Check
  | 0 => .dataset
  | 1 => .viewName
  | 2 => .viewSource
  | i + 3 => .tableName i

theorem ofName_stage (k : Nat) : (ofName k).stage = min k 3 := by
  match k with
  | 0 | 1 | 2 => rfl
  | i + 3 =>
    rw [ofName, stage]
    omega

theorem ofName_turn (k : Nat) : (ofName k).turn = k - 3 := by
  match k with
  | 0 | 1 | 2 | i + 3 => rfl

theorem exists_ofName (h : check.stage ≤ 3) : ∃ k, check = ofName k := by
  cases check with
  | dataset => exact ⟨0, rfl⟩
  | viewName => exact ⟨1, rfl⟩
  | viewSource => exact ⟨2, rfl⟩
  | tableName i => exact ⟨i + 3, rfl⟩
  | someTable | completeTable | newName | viewApart => simp [stage] at h

theorem fails_ofName_iff {k : Nat} :
    Fails layout (ofName k) violation ↔ ∃ key value, layout.identifiers[k]? = some (key, value) ∧
      ¬ IsWord value ∧ violation = .notIdentifier key value := by
  constructor
  · intro h
    rcases k with _ | _ | _ | i
    · cases h with
      | dataset hword => exact ⟨_, _, rfl, hword, rfl⟩
    · cases h with
      | viewName hword => exact ⟨_, _, rfl, hword, rfl⟩
    · cases h with
      | viewSource hword => exact ⟨_, _, rfl, hword, rfl⟩
    · cases h with
      | tableName htable hword => exact ⟨_, _, by simp [identifiers, htable], hword, rfl⟩
  · rintro ⟨key, value, hname, hword, rfl⟩
    rcases k with _ | _ | _ | i
    · cases hname
      exact .dataset hword
    · cases hname
      exact .viewName hword
    · cases hname
      exact .viewSource hword
    · obtain ⟨table, htable, hpair⟩ : ∃ table, layout.tables[i]? = some table ∧
          ("tables.table", table.name) = (key, value) := by
        simpa [identifiers] using hname
      cases hpair
      exact .tableName htable hword

end Check

/-! ## The scan of the tables -/

theorem tableViolation?_cons {seen : List String} {table : Table} (rest : List Table)
    (hcomplete : table.IsComplete) (hnew : table.name ∉ seen) :
    tableViolation? seen (table :: rest) = tableViolation? (table.name :: seen) rest := by
  simp [tableViolation?, table.isComplete_iff.1 hcomplete, hnew]

/-- The tables before the one that is reported pass, and its name is looked for among theirs and among those
seen before. -/
theorem tableViolation?_eq_some {seen : List String} {tables : List Table} {violation : Violation}
    (h : tableViolation? seen tables = some violation) :
    ∃ before table after, tables = before ++ table :: after ∧ tableViolation? seen before = none ∧
      (¬ table.IsComplete ∧ violation = .incompleteTable table.name ∨
        table.IsComplete ∧ table.name ∈ before.map Table.name ++ seen ∧
          violation = .repeatedTable table.name) := by
  induction tables generalizing seen with
  | nil => cases h
  | cons first rest ih =>
    by_cases hcomplete : first.IsComplete
    · by_cases hseen : first.name ∈ seen
      · refine ⟨[], first, rest, rfl, rfl, .inr ⟨hcomplete, by simpa using hseen, ?_⟩⟩
        simpa [tableViolation?, first.isComplete_iff.1 hcomplete, hseen, eq_comm] using h
      · rw [tableViolation?_cons rest hcomplete hseen] at h
        obtain ⟨before, table, after, rfl, hnone, hwrong⟩ := ih h
        refine ⟨first :: before, table, after, rfl, ?_, ?_⟩
        · rw [tableViolation?_cons before hcomplete hseen, hnone]
        · -- The name of the first table has moved from the names seen before to those of the tables.
          simpa [or_left_comm, or_assoc] using hwrong
    · have hmissing : (first.message.isEmpty || first.partitioningField.isEmpty) = true := by
        rw [← Bool.not_eq_false]
        exact mt first.isComplete_iff.2 hcomplete
      refine ⟨[], first, rest, rfl, rfl, .inl ⟨hcomplete, ?_⟩⟩
      simpa [tableViolation?, hmissing, eq_comm] using h

/-! ## The first check that fails -/

namespace Check

variable {check : Check}

theorem Fails.stage_of_identifiers (h : Fails layout check violation)
    (hnone : layout.identifierViolation? = none) : 4 ≤ check.stage := by
  by_contra hstage
  obtain ⟨k, rfl⟩ := exists_ofName (Nat.le_of_lt_succ (Nat.not_le.1 hstage))
  obtain ⟨key, value, hname, hword, -⟩ := fails_ofName_iff.1 h
  have hpassed := List.findSome?_eq_none_iff.1 hnone _ (List.mem_of_getElem? hname)
  simp [mt (isIdentifier_iff_isWord value).1 hword] at hpassed

theorem Fails.stage_of_tables_ne_nil (h : Fails layout check violation)
    (hnone : layout.identifierViolation? = none) (hne : layout.tables ≠ []) : 5 ≤ check.stage := by
  have hstage := h.stage_of_identifiers hnone
  cases h with
  | someTable hnil => exact absurd hnil hne
  | completeTable | newName | viewApart => simp [stage]
  | dataset | viewName | viewSource | tableName => simp [stage] at hstage

/-- No check of a table fails as long as the scan of the tables finds nothing. -/
theorem Fails.turn_of_tables {before after : List Table} (h : Fails layout check violation)
    (htables : layout.tables = before ++ after) (hnone : tableViolation? [] before = none)
    (hstage : check.stage = 5) : 2 * before.length ≤ check.turn := by
  obtain ⟨hcomplete, hdistinct, -⟩ := (tableViolation?_eq_none_iff [] before).1 hnone
  cases h with
  | @completeTable i table htable hmissing =>
    by_contra hturn
    have hi : i < before.length := by
      simp only [turn] at hturn
      omega
    rw [htables, List.getElem?_append_left hi] at htable
    obtain ⟨hmessage, hfield⟩ := hcomplete table (List.mem_of_getElem? htable)
    exact hmissing.elim hmessage hfield
  | @newName i j table earlier htable hj hearlier hname =>
    by_contra hturn
    have hi : i < before.length := by
      simp only [turn] at hturn
      omega
    rw [htables, List.getElem?_append_left hi] at htable
    rw [htables, List.getElem?_append_left (Nat.lt_trans hj hi)] at hearlier
    exact not_nodup_of_repeated htable hj hearlier hname hdistinct
  | dataset | viewName | viewSource | tableName | someTable | viewApart => simp [stage] at hstage

end Check

theorem exists_failsFirst_of_identifiers (h : layout.identifierViolation? = some violation) :
    ∃ check, Check.FailsFirst layout check violation := by
  obtain ⟨before, ⟨key, value⟩, after, hnames, hwrong, hbefore⟩ := List.findSome?_eq_some_iff.1 h
  have hword : ¬ IsWord value ∧ violation = .notIdentifier key value := by
    rw [← isIdentifier_iff_isWord]
    by_cases hidentifier : isIdentifier value
    · simp [hidentifier] at hwrong
    · simpa [hidentifier, eq_comm] using hwrong
  have hname : layout.identifiers[before.length]? = some (key, value) := by simp [hnames]
  refine ⟨.ofName before.length, Check.fails_ofName_iff.2 ⟨key, value, hname, hword⟩, ?_⟩
  rintro other violation' hfails hprecedes
  have hstage := Check.ofName_stage before.length
  have hearly : other.stage ≤ 3 := by
    unfold Check.Precedes at hprecedes
    omega
  obtain ⟨j, rfl⟩ := Check.exists_ofName hearly
  have hj : j < before.length := by
    simp only [Check.Precedes, Check.ofName_stage, Check.ofName_turn] at hprecedes
    omega
  obtain ⟨key', value', hname', hword', -⟩ := Check.fails_ofName_iff.1 hfails
  rw [hnames, List.getElem?_append_left hj] at hname'
  have hpassed := hbefore _ (List.mem_of_getElem? hname')
  simp [mt (isIdentifier_iff_isWord value').1 hword'] at hpassed

theorem exists_failsFirst_of_tables (hidentifiers : layout.identifierViolation? = none)
    (hne : layout.tables ≠ []) (h : tableViolation? [] layout.tables = some violation) :
    ∃ check, Check.FailsFirst layout check violation := by
  obtain ⟨before, table, after, htables, hnone, hwrong⟩ := tableViolation?_eq_some h
  have htable : layout.tables[before.length]? = some table := by simp [htables]
  rcases hwrong with ⟨hmissing, rfl⟩ | ⟨hcomplete, hname, rfl⟩
  · have hmissing : table.message = "" ∨ table.partitioningField = "" := by
      rwa [Table.IsComplete, not_and_or, not_not, not_not] at hmissing
    refine ⟨.completeTable before.length, .completeTable htable hmissing, ?_⟩
    rintro other violation' hfails (hstage | ⟨hstage, hturn⟩)
    · exact absurd (hfails.stage_of_tables_ne_nil hidentifiers hne) (Nat.not_le.2 hstage)
    · exact absurd (hfails.turn_of_tables htables hnone hstage) (Nat.not_le.2 hturn)
  · obtain ⟨earlier, hin, hsame⟩ : ∃ earlier ∈ before, earlier.name = table.name := by
      simpa using hname
    obtain ⟨j, hj⟩ := List.mem_iff_getElem?.1 hin
    have hlt := (List.getElem?_eq_some_iff.1 hj).1
    have hearlier : layout.tables[j]? = some earlier := by
      rw [htables, List.getElem?_append_left hlt, hj]
    refine ⟨.newName before.length, .newName htable hlt hearlier hsame, ?_⟩
    rintro other violation' hfails (hstage | ⟨hstage, hturn⟩)
    · exact absurd (hfails.stage_of_tables_ne_nil hidentifiers hne) (Nat.not_le.2 hstage)
    · -- Only the check that the table itself is complete is left, and it is.
      have hle := hfails.turn_of_tables htables hnone hstage
      cases hfails with
      | @completeTable i other htable' hmissing =>
        simp only [Check.turn] at hle hturn
        obtain rfl : i = before.length := by omega
        cases htable.symm.trans htable'
        exact hmissing.elim hcomplete.1 hcomplete.2
      | newName =>
        simp only [Check.turn] at hle hturn
        omega
      | dataset | viewName | viewSource | tableName | someTable | viewApart =>
        simp [Check.stage] at hstage

theorem exists_failsFirst_of_view (hidentifiers : layout.identifierViolation? = none)
    (hne : layout.tables ≠ []) (htables : tableViolation? [] layout.tables = none)
    {table : Table} (hin : table ∈ layout.tables) (hname : table.name = layout.view.name) :
    Check.FailsFirst layout .viewApart (.viewNamedAsTable layout.view.name) := by
  refine ⟨.viewApart hin hname, ?_⟩
  rintro other violation hfails hprecedes
  have hstage := hfails.stage_of_tables_ne_nil hidentifiers hne
  have hturn := hfails.turn_of_tables (List.append_nil _).symm htables
  cases hfails with
  | completeTable htable =>
    have hi := (List.getElem?_eq_some_iff.1 htable).1
    have hlate := hturn rfl
    simp only [Check.turn] at hlate
    omega
  | newName htable =>
    have hi := (List.getElem?_eq_some_iff.1 htable).1
    have hlate := hturn rfl
    simp only [Check.turn] at hlate
    omega
  | viewApart => simp [Check.Precedes] at hprecedes
  | dataset | viewName | viewSource | tableName | someTable => simp [Check.stage] at hstage

/-- Whatever is reported is the violation of the first check that fails. -/
theorem exists_failsFirst (h : layout.violation? = some violation) :
    ∃ check, Check.FailsFirst layout check violation := by
  unfold violation? at h
  cases hidentifiers : layout.identifierViolation? with
  | some found =>
    rw [hidentifiers] at h
    cases h
    exact exists_failsFirst_of_identifiers hidentifiers
  | none =>
    rw [hidentifiers, Option.orElse_none] at h
    by_cases hnil : layout.tables = []
    · simp only [hnil, List.isEmpty_nil, if_true, Option.some.injEq] at h
      subst h
      refine ⟨.someTable, .someTable hnil, ?_⟩
      rintro other violation hfails (hstage | ⟨hstage, hturn⟩)
      · exact absurd (hfails.stage_of_identifiers hidentifiers) (Nat.not_le.2 hstage)
      · exact absurd hturn (Nat.not_lt_zero _)
    · rw [if_neg (by simpa using hnil)] at h
      cases htables : tableViolation? [] layout.tables with
      | some found =>
        rw [htables] at h
        cases h
        exact exists_failsFirst_of_tables hidentifiers hnil htables
      | none =>
        rw [htables, Option.orElse_none] at h
        split at h
        · next hany =>
          cases h
          obtain ⟨table, hin, hname⟩ := List.any_eq_true.1 hany
          exact ⟨.viewApart, exists_failsFirst_of_view hidentifiers hnil htables hin (beq_iff_eq.1 hname)⟩
        · cases h

theorem validate_eq_error_iff :
    layout.validate = .error violation ↔ ∃ check, Check.FailsFirst layout check violation := by
  have hreported : layout.validate = .error violation ↔ layout.violation? = some violation := by
    unfold validate
    cases layout.violation? <;> simp
  rw [hreported]
  constructor
  · exact exists_failsFirst
  · rintro ⟨check, hfirst⟩
    cases hv : layout.violation? with
    | some other =>
      obtain ⟨check', hfirst'⟩ := exists_failsFirst hv
      rw [hfirst'.unique hfirst]
    | none => exact absurd ((violation?_eq_none_iff layout).1 hv) hfirst.1.not_isValid

/-- A layout passes exactly if its names are words, it has tables, all of them complete, and no name is given
twice; the order of the tables does not matter. Otherwise the violation of the first check that fails is
reported, and its message quotes the text that this check looks at. -/
theorem validate_reports_first (layout : Layout) :
    (layout.validate = .ok layout ↔
      (IsWord layout.dataset ∧ IsWord layout.view.name ∧ IsWord layout.view.source ∧
        ∀ table ∈ layout.tables, IsWord table.name) ∧
      layout.tables ≠ [] ∧
      (∀ table ∈ layout.tables, table.message ≠ "" ∧ table.partitioningField ≠ "") ∧
      (layout.tables.map Table.name).Nodup ∧ layout.view.name ∉ layout.tables.map Table.name) ∧
    (∀ tables, tables.Perm layout.tables →
      let permuted := { layout with tables := tables }
      permuted.validate = .ok permuted ↔ layout.validate = .ok layout) ∧
    (∀ violation, layout.validate = .error violation ↔
      ∃ check, Check.FailsFirst layout check violation) ∧
    ∀ check violation, Check.Fails layout check violation →
      (check.value? layout = none ∧ violation.message = "no tables configured") ∨
        ∃ value before after, check.value? layout = some value ∧
          violation.message = before ++ Text.Quoted.quote value ++ after := by
  refine ⟨validate_eq_ok_self_iff.trans isValid_iff, fun tables hperm => ?_,
    fun violation => validate_eq_error_iff, fun check violation => Check.Fails.message⟩
  intro permuted
  rw [validate_eq_ok_self_iff, validate_eq_ok_self_iff, isValid_of_perm hperm]

/-- The third table repeats the name of the first, the fourth has no message and the view is named as the
second: the repeated name is reported, and the tables are refused in any order. -/
theorem validate_reports_first_of_several :
    let layout : Layout := { Layout.standard with
      tables := [⟨"m", "bot_events", "t"⟩, ⟨"m", "tasks", "t"⟩, ⟨"m", "bot_events", "t"⟩,
        ⟨"", "more", "t"⟩]
      view := ⟨"tasks", "bot_events"⟩ }
    layout.validate = .error (.repeatedTable "bot_events") ∧
      (∃ check, Check.FailsFirst layout check (.repeatedTable "bot_events")) ∧
      layout.tables.reverse.Perm layout.tables ∧
      let reversed := { layout with tables := layout.tables.reverse }
      reversed.validate ≠ .ok reversed := by
  intro layout
  obtain ⟨-, hperm, herror, -⟩ := validate_reports_first layout
  have hrefused : layout.validate = .error (.repeatedTable "bot_events") := by decide +kernel
  refine ⟨hrefused, (herror _).1 hrefused, List.reverse_perm _, fun hpasses => ?_⟩
  rw [(hperm _ (List.reverse_perm _)).1 hpasses] at hrefused
  cases hrefused

end Layout

end Provisioning
