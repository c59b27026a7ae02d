import Provisioning.Layout.Decode
import Provisioning.Proofs.Except
import Provisioning.Proofs.Toml.Building

/-! # What decoded entries set

Entries are laid over a record one after the other, and each key is read into a part of its own. When no
key is given twice, a part is what the value of its key says, or what it was if the key is not given; the
order of the entries does not matter. -/
namespace Provisioning.Layout

section Run
variable {σ α : Type} {set : σ → String → Toml.Value → Except Mismatch σ} {key : String}
  {read : Toml.Value → Except Mismatch α} {get : σ → α} {entries : Toml.Entries} {s s' : σ}

/-- A part of a record that entries with one key are read into, and only they. -/
structure IsReadBy (set : σ → String → Toml.Value → Except Mismatch σ) (key : String)
    (read : Toml.Value → Except Mismatch α) (get : σ → α) : Prop where
  own : ∀ {s s' : σ} {v : Toml.Value}, set s key v = .ok s' → read v = .ok (get s')
  other : ∀ {s s' : σ} {k : String} {v : Toml.Value}, k ≠ key → set s k v = .ok s' → get s' = get s

theorem IsReadBy.run (h : IsReadBy set key read get) (hkeys : (entries.map Prod.fst).Nodup)
    (hrun : entries.foldlM (fun s (key, v) => set s key v) s = .ok s') :
    (∀ v, (key, v) ∈ entries → read v = .ok (get s')) ∧
      (key ∉ entries.map Prod.fst → get s' = get s) := by
  induction entries generalizing s with
  | nil =>
    cases hrun
    simp
  | cons entry rest ih =>
    rcases entry with ⟨k, v⟩
    rw [List.map_cons, List.nodup_cons] at hkeys
    rw [List.foldlM_cons] at hrun
    obtain ⟨s₁, hset, hrest⟩ := bind_eq_ok.1 hrun
    obtain ⟨hgiven, hkept⟩ := ih hkeys.2 hrest
    constructor
    · intro w hmem
      rcases List.mem_cons.1 hmem with heq | hmem
      · cases heq
        rw [hkept hkeys.1]
        exact h.own hset
      · exact hgiven w hmem
    · intro hnone
      rw [List.map_cons, List.mem_cons, not_or] at hnone
      rw [hkept hnone.2, h.other (Ne.symm hnone.1) hset]

/-- A part is read from the one value of its key, or keeps its own where there is none. -/
theorem IsReadBy.run_value (h : IsReadBy set key read get) (hkeys : (entries.map Prod.fst).Nodup)
    (hrun : entries.foldlM (fun s (key, v) => set s key v) s = .ok s') {values : Toml.Entries} {a : α}
    (hvalues : values = [] ∧ a = get s ∨ ∃ v, values = [(key, v)] ∧ read v = .ok a)
    (hmem : ∀ v, (key, v) ∈ entries ↔ (key, v) ∈ values) : get s' = a := by
  obtain ⟨hgiven, hkept⟩ := h.run hkeys hrun
  rcases hvalues with ⟨rfl, rfl⟩ | ⟨v, rfl, hread⟩
  · refine hkept fun hkey => ?_
    obtain ⟨⟨k, v⟩, hentry, rfl⟩ := List.mem_map.1 hkey
    cases (hmem v).1 hentry
  · exact Except.ok.inj ((hgiven v ((hmem v).2 (by simp))).symm.trans hread)

theorem exists_run (hset : ∀ entry ∈ entries, ∀ s, ∃ s', set s entry.1 entry.2 = .ok s') :
    ∃ s', entries.foldlM (fun s (key, v) => set s key v) s = .ok s' := by
  induction entries generalizing s with
  | nil => exact ⟨s, rfl⟩
  | cons entry rest ih =>
    obtain ⟨s₁, hfirst⟩ := hset entry List.mem_cons_self s
    obtain ⟨s', hrest⟩ := ih (s := s₁) fun later hlater => hset later (List.mem_cons_of_mem _ hlater)
    exact ⟨s', by rw [List.foldlM_cons]; exact bind_eq_ok.2 ⟨s₁, hfirst, hrest⟩⟩

end Run

/-! ## Texts that may be left out -/

/-- The entries of those keys that a text is given for. -/
def given (parts : List (String × Option String)) : List (String × String) :=
  parts.filterMap fun part => part.2.map (part.1, ·)

theorem mem_given {parts : List (String × Option String)} {key text : String} :
    (key, text) ∈ given parts ↔ (key, some text) ∈ parts := by
  simp only [given, List.mem_filterMap, Option.map_eq_some_iff, Prod.mk.injEq]
  constructor
  · rintro ⟨⟨k, t?⟩, hmem, t, ht, rfl, rfl⟩
    exact ht ▸ hmem
  · intro hmem
    exact ⟨_, hmem, text, rfl, rfl, rfl⟩

theorem keys_given_sublist (parts : List (String × Option String)) :
    ((given parts).map Prod.fst).Sublist (parts.map Prod.fst) := by
  induction parts with
  | nil => exact .slnil
  | cons part rest ih =>
    rcases part with ⟨key, - | text⟩
    · exact ih.cons key
    · exact ih.cons_cons key

theorem not_mem_keys_given {parts : List (String × Option String)}
    (hkeys : (parts.map Prod.fst).Nodup) {key : String} (h : (key, none) ∈ parts) :
    key ∉ (given parts).map Prod.fst := by
  intro hmem
  obtain ⟨⟨k, text⟩, hgiven, rfl⟩ := List.mem_map.1 hmem
  have heq := List.inj_on_of_nodup_map hkeys h (mem_given.1 hgiven) rfl
  cases heq

theorem mem_strings_given {parts : List (String × Option String)} {key : String} {v : Toml.Value} :
    (key, v) ∈ Toml.strings (given parts) ↔ ∃ t, (key, some t) ∈ parts ∧ v = .string t := by
  constructor
  · intro h
    obtain ⟨⟨k, t⟩, hgiven, heq⟩ := List.mem_map.1 h
    cases heq
    exact ⟨t, mem_given.1 hgiven, rfl⟩
  · rintro ⟨t, hpart, rfl⟩
    exact List.mem_map.2 ⟨(key, t), mem_given.2 hpart, rfl⟩

section Given
variable {parts : List (String × Option String)} {entries others : Toml.Entries}

theorem keys_perm (hentries : entries.Perm (Toml.strings (given parts) ++ others)) :
    (entries.map Prod.fst).Perm ((given parts).map Prod.fst ++ others.map Prod.fst) := by
  simpa [Toml.keys_strings] using hentries.map Prod.fst

theorem keys_nodup (hentries : entries.Perm (Toml.strings (given parts) ++ others))
    (hkeys : (parts.map Prod.fst ++ others.map Prod.fst).Nodup) : (entries.map Prod.fst).Nodup :=
  (keys_perm hentries).nodup_iff.2 (hkeys.sublist ((keys_given_sublist parts).append_right _))

/-- A part with a text is what its key says, if it is given, and keeps its value otherwise. -/
theorem IsReadBy.run_given {σ α : Type} {set : σ → String → Toml.Value → Except Mismatch σ}
    {key : String} {read : Toml.Value → Except Mismatch α} {get : σ → α} {s s' : σ}
    {value : String → α} (h : IsReadBy set key read get) (text? : Option String)
    (hread : ∀ text, read (.string text) = .ok (value text))
    (hentries : entries.Perm (Toml.strings (given parts) ++ others))
    (hkeys : (parts.map Prod.fst ++ others.map Prod.fst).Nodup)
    (hrun : entries.foldlM (fun s (key, v) => set s key v) s = .ok s')
    (hpart : (key, text?) ∈ parts) : get s' = (text?.map value).getD (get s) := by
  obtain ⟨hgiven, hkept⟩ := h.run (keys_nodup hentries hkeys) hrun
  cases text? with
  | none =>
    refine hkept fun hmem => ?_
    rcases List.mem_append.1 ((keys_perm hentries).mem_iff.1 hmem) with hmem | hmem
    · exact not_mem_keys_given (List.Nodup.of_append_left hkeys) hpart hmem
    · exact List.disjoint_of_nodup_append hkeys (List.mem_map_of_mem hpart) hmem
  | some text =>
    have hmem : (key, .string text) ∈ entries :=
      hentries.mem_iff.2 (List.mem_append_left _ (mem_strings_given.2 ⟨text, hpart, rfl⟩))
    exact (Except.ok.inj ((hread text).symm.trans (hgiven _ hmem))).symm

theorem exists_run_given {σ : Type} {set : σ → String → Toml.Value → Except Mismatch σ} {s : σ}
    (hentries : entries.Perm (Toml.strings (given parts)))
    (hset : ∀ key t, (key, some t) ∈ parts → ∀ s, ∃ s', set s key (.string t) = .ok s') :
    ∃ s', entries.foldlM (fun s (key, v) => set s key v) s = .ok s' := by
  refine exists_run ?_
  rintro ⟨key, v⟩ hentry
  obtain ⟨t, hpart, rfl⟩ := mem_strings_given.1 (hentries.mem_iff.1 hentry)
  exact hset key t hpart

end Given

/-! ## The view -/

/-- The texts of a view, by their keys. -/
def viewParts (name source : Option String) : List (String × Option String) :=
  [("name", name), ("source_table", source)]

theorem setView_cases {view view' : View} {key : String} {v : Toml.Value}
    (h : setView view key v = .ok view') :
    (key = "name" ∧ ∃ t, text v = .ok t ∧ { view with name := t } = view') ∨
      (key = "source_table" ∧ ∃ t, text v = .ok t ∧ { view with source := t } = view') := by
  unfold setView at h
  split_ifs at h <;> simp_all [map_eq_ok]

theorem viewName_isReadBy : IsReadBy setView "name" text View.name where
  own h := by grind [setView_cases]
  other hne h := by grind [setView_cases]

theorem viewSource_isReadBy : IsReadBy setView "source_table" text View.source where
  own h := by grind [setView_cases]
  other hne h := by grind [setView_cases]

theorem exists_setView {name source : Option String} {key t : String}
    (h : (key, some t) ∈ viewParts name source) (view : View) :
    ∃ view', setView view key (.string t) = .ok view' := by
  simp only [viewParts, List.mem_cons, Prod.mk.injEq, List.not_mem_nil, or_false] at h
  rcases h with ⟨rfl, -⟩ | ⟨rfl, -⟩ <;> exact ⟨_, rfl⟩

/-- Parts of the view that are not given are those of the standard view. -/
theorem viewOfValue_table {name source : Option String} {entries : Toml.Entries}
    (hentries : entries.Perm (Toml.strings (given (viewParts name source)))) :
    viewOfValue (.table entries) =
      .ok ⟨name.getD View.standard.name, source.getD View.standard.source⟩ := by
  have hperm : entries.Perm (Toml.strings (given (viewParts name source)) ++ []) := by
    simpa using hentries
  have hkeys : ((viewParts name source).map Prod.fst ++ ([] : Toml.Entries).map Prod.fst).Nodup := by
    simp [viewParts]
  obtain ⟨view, hrun⟩ := exists_run_given (s := View.standard) hentries fun _ _ => exists_setView
  have hname := viewName_isReadBy.run_given name (fun _ => rfl) hperm hkeys hrun
    (by simp [viewParts])
  have hsource := viewSource_isReadBy.run_given source (fun _ => rfl) hperm hkeys hrun
    (by simp [viewParts])
  rw [Option.map_id_fun', id] at hname hsource
  rw [viewOfValue, hrun, ← hname, ← hsource]

/-! ## The tables -/

/-- The texts of a table, by their keys. -/
def tableParts (table : Table) : List (String × Option String) :=
  [("message", table.message), ("table", table.name),
    ("partitioning_field", table.partitioningField)]

theorem TableParts.set_cases {parts parts' : TableParts} {key : String} {v : Toml.Value}
    (h : parts.set key v = .ok parts') :
    (key = "message" ∧ ∃ t, text v = .ok t ∧ { parts with message := some t } = parts') ∨
      (key = "table" ∧ ∃ t, text v = .ok t ∧ { parts with name := some t } = parts') ∨
      (key = "partitioning_field" ∧ ∃ t, text v = .ok t ∧
        { parts with partitioningField := some t } = parts') := by
  unfold set at h
  split_ifs at h <;> simp_all [map_eq_ok]

theorem tableMessage_isReadBy :
    IsReadBy TableParts.set "message" (fun v => (text v).map some) TableParts.message where
  own h := by grind [TableParts.set_cases, map_eq_ok]
  other hne h := by grind [TableParts.set_cases]

theorem tableName_isReadBy :
    IsReadBy TableParts.set "table" (fun v => (text v).map some) TableParts.name where
  own h := by grind [TableParts.set_cases, map_eq_ok]
  other hne h := by grind [TableParts.set_cases]

theorem tablePartitioningField_isReadBy :
    IsReadBy TableParts.set "partitioning_field" (fun v => (text v).map some)
      TableParts.partitioningField where
  own h := by grind [TableParts.set_cases, map_eq_ok]
  other hne h := by grind [TableParts.set_cases]

theorem exists_setTable {table : Table} {key t : String} (h : (key, some t) ∈ tableParts table)
    (parts : TableParts) : ∃ parts', parts.set key (.string t) = .ok parts' := by
  simp only [tableParts, List.mem_cons, Prod.mk.injEq, List.not_mem_nil, or_false] at h
  rcases h with ⟨rfl, -⟩ | ⟨rfl, -⟩ | ⟨rfl, -⟩ <;> exact ⟨_, rfl⟩

theorem tableOfValue_table {table : Table} {entries : Toml.Entries}
    (hentries : entries.Perm (Toml.strings (given (tableParts table)))) :
    tableOfValue (.table entries) = .ok table := by
  have hperm : entries.Perm (Toml.strings (given (tableParts table)) ++ []) := by
    simpa using hentries
  have hkeys : ((tableParts table).map Prod.fst ++ ([] : Toml.Entries).map Prod.fst).Nodup := by
    simp [tableParts]
  obtain ⟨parts, hrun⟩ := exists_run_given (s := {}) hentries fun _ _ => exists_setTable
  have hmessage := tableMessage_isReadBy.run_given table.message (fun _ => rfl) hperm hkeys hrun
    (by simp [tableParts])
  have hname := tableName_isReadBy.run_given table.name (fun _ => rfl) hperm hkeys hrun
    (by simp [tableParts])
  have hfield := tablePartitioningField_isReadBy.run_given table.partitioningField (fun _ => rfl) hperm hkeys hrun
    (by simp [tableParts])
  rw [tableOfValue, hrun]
  simp only [Except.bind, TableParts.complete, hmessage, hname, hfield, Option.map_some,
    Option.getD_some]

theorem tablesOfValue_array {tables : List Table} {elements : Table → Toml.Entries}
    (helements : ∀ table ∈ tables, (elements table).Perm (Toml.strings (given (tableParts table)))) :
    tablesOfValue (.array (tables.map fun table => .table (elements table))) = .ok tables := by
  rw [tablesOfValue]
  induction tables with
  | nil => rfl
  | cons table rest ih =>
    have hrest := ih fun later hlater => helements later (List.mem_cons_of_mem _ hlater)
    rw [List.map_cons, List.mapM_cons, tableOfValue_table (helements table List.mem_cons_self),
      hrest]
    rfl

/-! ## The layout -/

theorem set_cases {layout layout' : Layout} {key : String} {v : Toml.Value}
    (h : layout.set key v = .ok layout') :
    (key = "dataset" ∧ ∃ t, text v = .ok t ∧ { layout with dataset := t } = layout') ∨
      (key = "location" ∧ ∃ t, text v = .ok t ∧ { layout with location := t } = layout') ∨
      (key = "description" ∧ ∃ t, text v = .ok t ∧ { layout with description := t } = layout') ∨
      (key = "proto_dir" ∧ ∃ t, string "path string" v = .ok t ∧
        { layout with schemaDirectory := Path.ofString t } = layout') ∨
      (key = "partition_expiration" ∧ ∃ t, text v = .ok t ∧
        { layout with partitionExpiration := t } = layout') ∨
      (key = "tables" ∧ ∃ tables, tablesOfValue v = .ok tables ∧
        { layout with tables := tables } = layout') ∨
      (key = "view" ∧ ∃ view, viewOfValue v = .ok view ∧ { layout with view := view } = layout') := by
  unfold set at h
  split_ifs at h <;> simp_all [map_eq_ok]

theorem dataset_isReadBy : IsReadBy set "dataset" text dataset where
  own h := by grind [set_cases]
  other hne h := by grind [set_cases]

theorem location_isReadBy : IsReadBy set "location" text location where
  own h := by grind [set_cases]
  other hne h := by grind [set_cases]

theorem description_isReadBy : IsReadBy set "description" text description where
  own h := by grind [set_cases]
  other hne h := by grind [set_cases]

theorem schemaDirectory_isReadBy :
    IsReadBy set "proto_dir" (fun v => (string "path string" v).map Path.ofString)
      schemaDirectory where
  own h := by grind [set_cases, map_eq_ok]
  other hne h := by grind [set_cases]

theorem partitionExpiration_isReadBy :
    IsReadBy set "partition_expiration" text partitionExpiration where
  own h := by grind [set_cases]
  other hne h := by grind [set_cases]

theorem tables_isReadBy : IsReadBy set "tables" tablesOfValue tables where
  own h := by grind [set_cases]
  other hne h := by grind [set_cases]

theorem view_isReadBy : IsReadBy set "view" viewOfValue view where
  own h := by grind [set_cases]
  other hne h := by grind [set_cases]

end Provisioning.Layout
