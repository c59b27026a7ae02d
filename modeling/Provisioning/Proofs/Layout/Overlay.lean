import Provisioning.Layout.Load
import Provisioning.Proofs.Layout.Decoding
import Provisioning.Proofs.Layout.Validity
import Provisioning.Proofs.Text.Utf8
import Provisioning.Proofs.Toml.Lines
import Provisioning.Proofs.Toml.Sorted

/-! # What a configuration describes

A table describes a layout when each of its keys is known, each value is of the kind its key asks for, and
every part of the layout is what its key gives or, where the key is missing, that of the standard layout.
Loading a file finds exactly the layouts that its table describes. -/
namespace Provisioning.Layout

/-! ## Descriptions -/

/-- A part that is what the value of its key gives, or the standard one where a table does not have the
key. -/
def Overlays {α : Type} (table : Toml.Entries) (key : String) (gives : Toml.Value → α → Prop)
    (standard part : α) : Prop :=
  match table.lookup key with
  | none => part = standard
  | some v => gives v part

/-- A string gives its text. -/
def GivesText (v : Toml.Value) (t : String) : Prop :=
  v = .string t

/-- A string gives the path that it spells. -/
def GivesPath (v : Toml.Value) (path : Path) : Prop :=
  ∃ t, v = .string t ∧ path = Path.ofString t

/-- A view as a table, or as an array of its first parts in order. -/
inductive GivesView : Toml.Value → View → Prop
  | table {entries : Toml.Entries} {view : View} (keys : ∀ entry ∈ entries, entry.1 ∈ viewKeys)
    (name : Overlays entries "name" GivesText View.standard.name view.name)
    (source : Overlays entries "source_table" GivesText View.standard.source view.source) :
    GivesView (.table entries) view
  | none : GivesView (.array []) View.standard
  | name (name : String) : GivesView (.array [.string name]) { View.standard with name }
  | both (name source : String) (surplus : List Toml.Value) :
    GivesView (.array (.string name :: .string source :: surplus)) ⟨name, source⟩

/-- A table as one with all of its keys, or as an array of its parts in order. -/
inductive GivesTable : Toml.Value → Table → Prop
  | table {entries : Toml.Entries} {table : Table} (keys : ∀ entry ∈ entries, entry.1 ∈ tableKeys)
    (message : entries.lookup "message" = some (.string table.message))
    (name : entries.lookup "table" = some (.string table.name))
    (partitioningField : entries.lookup "partitioning_field" = some (.string table.partitioningField)) :
    GivesTable (.table entries) table
  | array (message name field : String) (surplus : List Toml.Value) :
    GivesTable (.array (.string message :: .string name :: .string field :: surplus)) ⟨message, name, field⟩

/-- Tables as an array of them. -/
def GivesTables (v : Toml.Value) (tables : List Table) : Prop :=
  ∃ elements, v = .array elements ∧ List.Forall₂ GivesTable elements tables

/-- A layout that a table describes. -/
structure Describes (table : Toml.Entries) (layout : Layout) : Prop where
  keys : ∀ entry ∈ table, entry.1 ∈ Layout.keys
  dataset : Overlays table "dataset" GivesText standard.dataset layout.dataset
  location : Overlays table "location" GivesText standard.location layout.location
  description : Overlays table "description" GivesText standard.description layout.description
  schemaDirectory : Overlays table "proto_dir" GivesPath standard.schemaDirectory layout.schemaDirectory
  partitionExpiration :
    Overlays table "partition_expiration" GivesText standard.partitionExpiration layout.partitionExpiration
  tables : Overlays table "tables" GivesTables standard.tables layout.tables
  view : Overlays table "view" GivesView standard.view layout.view

/-! ## Parts of a record -/

section Overlays
variable {σ α : Type} {set : σ → String → Toml.Value → Except Mismatch σ} {key : String}
  {read : Toml.Value → Except Mismatch α} {get : σ → α} {gives : Toml.Value → α → Prop}
  {entries : Toml.Entries} {s s' : σ}

/-- After a run, a part is what the value of its key gives. -/
theorem IsReadBy.overlays (h : IsReadBy set key read get) (hkeys : (entries.map Prod.fst).Nodup)
    (hrun : entries.foldlM (fun s (key, v) => set s key v) s = .ok s')
    (hgives : ∀ v, (key, v) ∈ entries → ∀ a, read v = .ok a ↔ gives v a) (part : α) :
    Overlays entries key gives (get s) part ↔ part = get s' := by
  obtain ⟨hgiven, hkept⟩ := h.run hkeys hrun
  cases hlookup : entries.lookup key with
  | none => simp only [Overlays, hlookup, hkept (Toml.not_mem_of_lookup hlookup)]
  | some v =>
    have hmem := Toml.mem_of_lookup hlookup
    simp only [Overlays, hlookup]
    rw [← hgives v hmem part, hgiven v hmem, Except.ok.injEq, eq_comm]

/-- The value of a key that is given can be read. -/
theorem Overlays.read_eq_ok {standard part : α} (h : Overlays entries key gives standard part)
    (hkeys : (entries.map Prod.fst).Nodup)
    (hgives : ∀ v, (key, v) ∈ entries → ∀ a, read v = .ok a ↔ gives v a) {v : Toml.Value}
    (hmem : (key, v) ∈ entries) : read v = .ok part := by
  rw [Overlays, Toml.lookup_of_mem hkeys hmem] at h
  exact (hgives v hmem part).2 h

/-- Entries that run one after the other can each be set. -/
theorem exists_set_of_run (hrun : entries.foldlM (fun s (key, v) => set s key v) s = .ok s') :
    ∀ entry ∈ entries, ∃ s s', set s entry.1 entry.2 = .ok s' := by
  induction entries generalizing s with
  | nil => simp
  | cons entry rest ih =>
    rw [List.foldlM_cons] at hrun
    obtain ⟨s₁, hfirst, hrest⟩ := bind_eq_ok.1 hrun
    exact List.forall_mem_cons.2 ⟨⟨s, s₁, hfirst⟩, ih hrest⟩

end Overlays

/-! ## Texts and paths -/

theorem string_eq_ok_iff {expected t : String} {v : Toml.Value} :
    string expected v = .ok t ↔ GivesText v t := by
  cases v <;> simp [string, GivesText, eq_comm]

theorem text_eq_ok_iff (v : Toml.Value) (t : String) : text v = .ok t ↔ GivesText v t :=
  string_eq_ok_iff

theorem path_eq_ok_iff (v : Toml.Value) (path : Path) :
    (string "path string" v).map Path.ofString = .ok path ↔ GivesPath v path := by
  simp only [map_eq_ok, string_eq_ok_iff, GivesText, GivesPath, eq_comm (a := path)]

/-! ## The view -/

theorem viewOfValue_table_iff {entries : Toml.Entries} (hkeys : (entries.map Prod.fst).Nodup) {view : View} :
    viewOfValue (.table entries) = .ok view ↔ GivesView (.table entries) view := by
  constructor
  · intro hrun
    have hname := viewName_isReadBy.overlays hkeys hrun (fun v _ => text_eq_ok_iff v)
    have hsource := viewSource_isReadBy.overlays hkeys hrun (fun v _ => text_eq_ok_iff v)
    refine .table (fun entry hentry => ?_) ((hname _).2 rfl) ((hsource _).2 rfl)
    obtain ⟨s, s', hset⟩ := exists_set_of_run hrun entry hentry
    rcases setView_cases hset with ⟨hkey, -⟩ | ⟨hkey, -⟩ <;> simp [hkey, viewKeys]
  · rintro ⟨hknown, hname, hsource⟩
    have hset : ∀ entry ∈ entries, ∀ s, ∃ s', setView s entry.1 entry.2 = .ok s' := by
      rintro ⟨key, v⟩ hentry s
      have hkey := hknown _ hentry
      simp only [viewKeys, List.mem_cons, List.not_mem_nil, or_false] at hkey
      rcases hkey with rfl | rfl
      · have ht := hname.read_eq_ok hkeys (fun v _ => text_eq_ok_iff v) hentry
        simp [setView, ht, Except.map]
      · have ht := hsource.read_eq_ok hkeys (fun v _ => text_eq_ok_iff v) hentry
        simp [setView, ht, Except.map]
    obtain ⟨view', hrun⟩ := exists_run (s := View.standard) hset
    have hname' := (viewName_isReadBy.overlays hkeys hrun (fun v _ => text_eq_ok_iff v) _).1 hname
    have hsource' := (viewSource_isReadBy.overlays hkeys hrun (fun v _ => text_eq_ok_iff v) _).1 hsource
    rw [viewOfValue, hrun]
    cases view
    cases view'
    exact congrArg Except.ok (View.mk.injEq .. ▸ ⟨hname'.symm, hsource'.symm⟩)

theorem viewOfValue_eq_ok_iff {v : Toml.Value} (hv : v.IsSorted) (view : View) :
    viewOfValue v = .ok view ↔ GivesView v view := by
  cases v with
  | table entries =>
    cases hv with
    | table horder _ => exact viewOfValue_table_iff horder.keys_nodup
  | array elements =>
    constructor
    · intro h
      match elements, h with
      | [], h =>
        cases h
        exact .none
      | [a], h =>
        obtain ⟨name, ha, hview⟩ := bind_eq_ok.1 h
        cases (text_eq_ok_iff a name).1 ha
        cases hview
        exact .name name
      | a :: b :: surplus, h =>
        obtain ⟨name, ha, h⟩ := bind_eq_ok.1 h
        obtain ⟨source, hb, hview⟩ := bind_eq_ok.1 h
        cases (text_eq_ok_iff a name).1 ha
        cases (text_eq_ok_iff b source).1 hb
        cases hview
        exact .both name source surplus
    · rintro (_ | _ | _ | _) <;> rfl
  | string | integer | illegible | real | boolean | dateTime =>
    constructor <;>
    · intro h
      cases h

/-! ## The tables -/

/-- A string gives a part that is missing at first. -/
def GivesPart (v : Toml.Value) (part : Option String) : Prop :=
  ∃ t, v = .string t ∧ part = some t

theorem part_eq_ok_iff (v : Toml.Value) (part : Option String) :
    (text v).map some = .ok part ↔ GivesPart v part := by
  simp only [map_eq_ok, text_eq_ok_iff, GivesText, GivesPart, eq_comm (a := part)]

theorem overlays_part_iff {entries : Toml.Entries} {key t : String} :
    Overlays entries key GivesPart none (some t) ↔ entries.lookup key = some (.string t) := by
  unfold Overlays
  cases entries.lookup key <;> simp [GivesPart, eq_comm]

theorem TableParts.complete_eq_ok_iff {parts : TableParts} {table : Table} :
    parts.complete = .ok table ↔ parts.message = some table.message ∧ parts.name = some table.name ∧
      parts.partitioningField = some table.partitioningField := by
  rcases parts with ⟨- | message, - | name, - | field⟩ <;>
    simp [complete, ← Table.mk.injEq]

theorem tableOfValue_table_iff {entries : Toml.Entries} (hkeys : (entries.map Prod.fst).Nodup)
    {table : Table} :
    tableOfValue (.table entries) = .ok table ↔ GivesTable (.table entries) table := by
  constructor
  · intro h
    obtain ⟨parts, hrun, hcomplete⟩ := bind_eq_ok.1 h
    obtain ⟨hmessage, hname, hfield⟩ := TableParts.complete_eq_ok_iff.1 hcomplete
    have hmessages := tableMessage_isReadBy.overlays hkeys hrun (fun v _ => part_eq_ok_iff v)
    have hnames := tableName_isReadBy.overlays hkeys hrun (fun v _ => part_eq_ok_iff v)
    have hfields := tablePartitioningField_isReadBy.overlays hkeys hrun (fun v _ => part_eq_ok_iff v)
    refine .table (fun entry hentry => ?_) (overlays_part_iff.1 ((hmessages _).2 hmessage.symm))
      (overlays_part_iff.1 ((hnames _).2 hname.symm)) (overlays_part_iff.1 ((hfields _).2 hfield.symm))
    obtain ⟨s, s', hset⟩ := exists_set_of_run hrun entry hentry
    rcases TableParts.set_cases hset with ⟨hkey, -⟩ | ⟨hkey, -⟩ | ⟨hkey, -⟩ <;> simp [hkey, tableKeys]
  · rintro ⟨hknown, hmessage, hname, hfield⟩
    have hset : ∀ entry ∈ entries, ∀ parts, ∃ parts', TableParts.set parts entry.1 entry.2 = .ok parts' := by
      rintro ⟨key, v⟩ hentry parts
      have hlookup := Toml.lookup_of_mem hkeys hentry
      have hkey := hknown _ hentry
      simp only [tableKeys, List.mem_cons, List.not_mem_nil, or_false] at hkey
      rcases hkey with rfl | rfl | rfl
      · cases hlookup.symm.trans hmessage
        exact ⟨_, rfl⟩
      · cases hlookup.symm.trans hname
        exact ⟨_, rfl⟩
      · cases hlookup.symm.trans hfield
        exact ⟨_, rfl⟩
    obtain ⟨parts, hrun⟩ := exists_run (s := {}) hset
    have hmessages := (tableMessage_isReadBy.overlays hkeys hrun (fun v _ => part_eq_ok_iff v) _).1
      (overlays_part_iff.2 hmessage)
    have hnames := (tableName_isReadBy.overlays hkeys hrun (fun v _ => part_eq_ok_iff v) _).1
      (overlays_part_iff.2 hname)
    have hfields := (tablePartitioningField_isReadBy.overlays hkeys hrun (fun v _ => part_eq_ok_iff v) _).1
      (overlays_part_iff.2 hfield)
    rw [tableOfValue, hrun]
    exact TableParts.complete_eq_ok_iff.2 ⟨hmessages.symm, hnames.symm, hfields.symm⟩

theorem tableOfValue_eq_ok_iff {v : Toml.Value} (hv : v.IsSorted) (table : Table) :
    tableOfValue v = .ok table ↔ GivesTable v table := by
  cases v with
  | table entries =>
    cases hv with
    | table horder _ => exact tableOfValue_table_iff horder.keys_nodup
  | array elements =>
    constructor
    · intro h
      match elements, h with
      | [], h => cases h
      | [a], h =>
        obtain ⟨_, _, hshort⟩ := bind_eq_ok.1 h
        cases hshort
      | [a, b], h =>
        obtain ⟨_, _, h⟩ := bind_eq_ok.1 h
        obtain ⟨_, _, hshort⟩ := bind_eq_ok.1 h
        cases hshort
      | a :: b :: c :: surplus, h =>
        obtain ⟨message, ha, h⟩ := bind_eq_ok.1 h
        obtain ⟨name, hb, h⟩ := bind_eq_ok.1 h
        obtain ⟨field, hc, htable⟩ := bind_eq_ok.1 h
        cases (text_eq_ok_iff a message).1 ha
        cases (text_eq_ok_iff b name).1 hb
        cases (text_eq_ok_iff c field).1 hc
        cases htable
        exact .array message name field surplus
    · rintro (_ | _)
      rfl
  | string | integer | illegible | real | boolean | dateTime =>
    constructor <;>
    · intro h
      cases h

/-- Elements are decoded one by one. -/
theorem mapM_eq_ok_iff {α β ε : Type} {f : α → Except ε β} {elements : List α} {results : List β} :
    elements.mapM f = .ok results ↔ List.Forall₂ (fun a b => f a = .ok b) elements results := by
  induction elements generalizing results with
  | nil => simp [pure_eq_ok]
  | cons a rest ih =>
    rw [List.mapM_cons, bind_eq_ok, List.forall₂_cons_left_iff]
    simp only [bind_eq_ok, pure_eq_ok, ih]
    constructor
    · rintro ⟨b, ha, bs, hrest, rfl⟩
      exact ⟨b, bs, ha, hrest, rfl⟩
    · rintro ⟨b, bs, ha, hrest, rfl⟩
      exact ⟨b, ha, bs, hrest, rfl⟩

theorem tablesOfValue_eq_ok_iff {v : Toml.Value} (hv : v.IsSorted) (tables : List Table) :
    tablesOfValue v = .ok tables ↔ GivesTables v tables := by
  cases v with
  | array elements =>
    cases hv with
    | array helements =>
      simp only [tablesOfValue, GivesTables, mapM_eq_ok_iff, Toml.Value.array.injEq, exists_eq_left']
      constructor
      · exact fun h => (List.forall₂_and_left _ _ |>.2 ⟨helements, h⟩).imp fun v table h =>
          (tableOfValue_eq_ok_iff h.1 table).1 h.2
      · exact fun h => (List.forall₂_and_left _ _ |>.2 ⟨helements, h⟩).imp fun v table h =>
          (tableOfValue_eq_ok_iff h.1 table).2 h.2
  | table | string | integer | illegible | real | boolean | dateTime =>
    constructor
    · intro h
      cases h
    · rintro ⟨_, ⟨⟩, _⟩

/-! ## The layout -/

section Layout
variable {table : Toml.Entries} {layout : Layout}

/-- After a run over a table, each part of a layout is what the table gives for it. -/
theorem describes_iff_of_run (htable : (Toml.Value.table table).IsSorted) {layout' : Layout}
    (hknown : ∀ entry ∈ table, entry.1 ∈ keys) (hrun : ofEntries table = .ok layout') :
    Describes table layout ↔ layout = layout' := by
  cases htable with
  | table horder hentries =>
    have hkeys := horder.keys_nodup
    have htext : ∀ key v, (key, v) ∈ table → ∀ t, text v = .ok t ↔ GivesText v t :=
      fun _ v _ => text_eq_ok_iff v
    have hdataset := dataset_isReadBy.overlays hkeys hrun (htext _) layout.dataset
    have hlocation := location_isReadBy.overlays hkeys hrun (htext _) layout.location
    have hdescription := description_isReadBy.overlays hkeys hrun (htext _) layout.description
    have hdirectory := schemaDirectory_isReadBy.overlays hkeys hrun (fun v _ => path_eq_ok_iff v)
      layout.schemaDirectory
    have hexpiration := partitionExpiration_isReadBy.overlays hkeys hrun (htext _) layout.partitionExpiration
    have htables := tables_isReadBy.overlays hkeys hrun
      (fun v hmem => tablesOfValue_eq_ok_iff (hentries _ hmem)) layout.tables
    have hview := view_isReadBy.overlays hkeys hrun
      (fun v hmem => viewOfValue_eq_ok_iff (hentries _ hmem)) layout.view
    constructor
    · rintro ⟨-, h₁, h₂, h₃, h₄, h₅, h₆, h₇⟩
      cases layout
      cases layout'
      exact Layout.mk.injEq .. ▸ ⟨hdataset.1 h₁, hlocation.1 h₂, hdescription.1 h₃, hdirectory.1 h₄,
        hexpiration.1 h₅, htables.1 h₆, hview.1 h₇⟩
    · rintro rfl
      exact ⟨hknown, hdataset.2 rfl, hlocation.2 rfl, hdescription.2 rfl, hdirectory.2 rfl,
        hexpiration.2 rfl, htables.2 rfl, hview.2 rfl⟩

theorem known_of_run {layout' : Layout} (hrun : ofEntries table = .ok layout') :
    ∀ entry ∈ table, entry.1 ∈ keys := by
  intro entry hentry
  obtain ⟨s, s', hset⟩ := exists_set_of_run hrun entry hentry
  rcases set_cases hset with h | h | h | h | h | h | h <;> simp [h.1, keys]

/-- A table that describes a layout can be laid over the standard layout. -/
theorem exists_run_of_describes (htable : (Toml.Value.table table).IsSorted) (h : Describes table layout) :
    ∃ layout', ofEntries table = .ok layout' := by
  cases htable with
  | table horder hentries =>
    have hkeys := horder.keys_nodup
    refine exists_run ?_
    rintro ⟨key, v⟩ hentry s
    have hkey := h.keys _ hentry
    simp only [keys, List.mem_cons, List.not_mem_nil, or_false] at hkey
    rcases hkey with rfl | rfl | rfl | rfl | rfl | rfl | rfl
    · have hread := h.dataset.read_eq_ok hkeys (fun v _ => text_eq_ok_iff v) hentry
      simp [set, hread, Except.map]
    · have hread := h.location.read_eq_ok hkeys (fun v _ => text_eq_ok_iff v) hentry
      simp [set, hread, Except.map]
    · have hread := h.description.read_eq_ok hkeys (fun v _ => text_eq_ok_iff v) hentry
      simp [set, hread, Except.map]
    · have hread := h.schemaDirectory.read_eq_ok hkeys (fun v _ => path_eq_ok_iff v) hentry
      obtain ⟨t, ht, -⟩ := map_eq_ok.1 hread
      simp [set, ht, Except.map]
    · have hread := h.partitionExpiration.read_eq_ok hkeys (fun v _ => text_eq_ok_iff v) hentry
      simp [set, hread, Except.map]
    · have hread := h.tables.read_eq_ok hkeys
        (fun v hmem => tablesOfValue_eq_ok_iff (hentries _ hmem)) hentry
      simp [set, hread, Except.map]
    · have hread := h.view.read_eq_ok hkeys
        (fun v hmem => viewOfValue_eq_ok_iff (hentries _ hmem)) hentry
      simp [set, hread, Except.map]

theorem ofEntries_eq_ok_iff (htable : (Toml.Value.table table).IsSorted) :
    ofEntries table = .ok layout ↔ Describes table layout := by
  constructor
  · intro hrun
    exact (describes_iff_of_run htable (known_of_run hrun) hrun).2 rfl
  · intro h
    obtain ⟨layout', hrun⟩ := exists_run_of_describes htable h
    rw [hrun, (describes_iff_of_run htable h.keys hrun).1 h]

end Layout

/-! ## Loading -/

/-- What loading answers for a table: the layout it describes, if that is valid, the first violation if it
is not, and the first mismatch if the table describes none. -/
def answer (path : Path) (table : Toml.Entries) : Except LoadError Layout :=
  match ofEntries table with
  | .error mismatch => .error (.malformed path (.entry mismatch))
  | .ok layout => (validate layout).mapError fun violation => .invalid violation.message

section Load
variable {octets : List UInt8} {text : List Char} {table : Toml.Entries}
  {read : Path → Except SystemError (List UInt8)} {path : Path}

theorem load_of_document (hread : read path = .ok octets) (htext : textOf octets = .ok text)
    (hdocument : Toml.document? text = some table) : load read path = answer path table := by
  have hparse : parse text = (ofEntries table).mapError .entry := by rw [parse, hdocument]
  have hall : (read path).bind textOf = .ok text := by
    rw [hread]
    exact htext
  rw [load, hall]
  simp only [hparse, answer]
  cases ofEntries table <;> rfl

/-- A file that is a document is loaded exactly when its table describes a layout and that is valid. A table
that describes none is refused for an entry, however many others it has; and it describes at most one. -/
theorem load_eq_ok_iff_describes (hread : read path = .ok octets) (htext : textOf octets = .ok text)
    (hdocument : Toml.document? text = some table) :
    (∀ layout, load read path = .ok layout ↔ Describes table layout ∧ validate layout = .ok layout) ∧
      (∀ layout violation, Describes table layout → validate layout = .error violation →
        load read path = .error (.invalid violation.message)) ∧
      ((∀ layout, ¬ Describes table layout) →
        ∃ mismatch, load read path = .error (.malformed path (.entry mismatch))) ∧
      ∀ layout layout', Describes table layout → Describes table layout' → layout = layout' := by
  have hload := load_of_document hread htext hdocument
  have hdescribes : ∀ layout, ofEntries table = .ok layout ↔ Describes table layout :=
    fun _ => ofEntries_eq_ok_iff (Toml.document?_isSorted hdocument)
  cases hentries : ofEntries table with
  | error mismatch =>
    have hnone : ∀ layout, ¬ Describes table layout := by
      intro layout h
      rw [← hdescribes, hentries] at h
      cases h
    rw [answer, hentries] at hload
    simp [hload, hnone]
  | ok layout =>
    have hone : ∀ layout', Describes table layout' ↔ layout' = layout := by
      intro layout'
      rw [← hdescribes, hentries, Except.ok.injEq, eq_comm]
    rw [answer, hentries] at hload
    simp only [hload, hone, mapError_eq_ok]
    refine ⟨fun layout' => ?_, ?_, fun hnone => absurd rfl (hnone layout), ?_⟩
    · constructor
      · intro hvalid
        obtain ⟨rfl, -⟩ := validate_eq_ok_iff.1 hvalid
        exact ⟨rfl, hvalid⟩
      · rintro ⟨rfl, hvalid⟩
        exact hvalid
    · rintro _ violation rfl hinvalid
      rw [hinvalid]
      rfl
    · rintro _ _ rfl rfl
      rfl

end Load

/-- The octets of some lines are read as the table that their statements make. -/
theorem document_of_lines (lines : List Toml.Line) (text : String) {table : Toml.Entries}
    (hkeys : ∀ line ∈ lines, Toml.isBareKey line.key = true)
    (hlines : lines.flatMap (Toml.Line.render Toml.Style.plain) = text.toList)
    (htable : Toml.table? (lines.map Toml.Line.statement) = some table) :
    textOf (Text.Utf8.encode text.toList) = .ok text.toList ∧ Toml.document? text.toList = some table := by
  rw [← hlines]
  exact ⟨by rw [textOf, Text.Utf8.decode?_encode],
    (Toml.document?_render Toml.Style.plain hkeys).trans htable⟩

theorem load_eq_ok_iff_describes_section :
    load (fun _ => .ok (Text.Utf8.encode
        "dataset = \"swarming_dev\"\n[view]\nsource_table = \"task_results\"\n".toList))
      (Path.ofString "bq.toml") =
      .ok { standard with
        dataset := "swarming_dev"
        view := ⟨"bot_events_delta", "task_results"⟩ } ∧
    ∃ mismatch, load (fun _ => .ok (Text.Utf8.encode
        "dataset = \"swarming_dev\"\n[view]\nsource = \"task_results\"\n".toList))
      (Path.ofString "bq.toml") =
      .error (.malformed (Path.ofString "bq.toml") (.entry mismatch)) := by
  constructor
  · obtain ⟨htext, hdocument⟩ := document_of_lines
      [.entry "dataset" "swarming_dev", .tableHeader "view", .entry "source_table" "task_results"]
      "dataset = \"swarming_dev\"\n[view]\nsource_table = \"task_results\"\n"
      (by decide) (by decide +kernel) rfl
    refine ((load_eq_ok_iff_describes rfl htext hdocument).1 _).2 ⟨?_, rfl⟩
    exact ⟨by decide, rfl, rfl, rfl, rfl, rfl, rfl, .table (by decide) rfl rfl⟩
  · obtain ⟨htext, hdocument⟩ := document_of_lines
      [.entry "dataset" "swarming_dev", .tableHeader "view", .entry "source" "task_results"]
      "dataset = \"swarming_dev\"\n[view]\nsource = \"task_results\"\n"
      (by decide) (by decide +kernel) rfl
    refine (load_eq_ok_iff_describes rfl htext hdocument).2.2.1 fun layout h => ?_
    cases h.view with
    | table hkeys => exact absurd (hkeys _ List.mem_cons_self) (by decide)

end Provisioning.Layout
