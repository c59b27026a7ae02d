import Provisioning.Layout.Load
import Provisioning.Proofs.Layout.Decoding
import Provisioning.Proofs.Layout.Validity
import Provisioning.Proofs.Text.Utf8

/-! # Layouts written to a file

A file may give any of the texts of a layout, either text of the view, and the tables as a whole. However
it is written, loading it lays what it gives over the standard layout and checks the result; a valid layout
can thus be written in full and read back. -/
namespace Provisioning.Layout

/-! ## What a file gives -/

/-- The texts of the view that a file gives. -/
structure ViewOverrides where
  name : Option String := none
  source : Option String := none

/-- What a file gives. The view has a section of its own, which may be empty; the tables replace all those
of the standard layout, and are not given where the list is empty. -/
structure Overrides where
  dataset : Option String := none
  location : Option String := none
  description : Option String := none
  schemaDirectory : Option String := none
  partitionExpiration : Option String := none
  view : Option ViewOverrides := none
  tables : List Table := []

/-- How a file is written: how its strings are spelled, in which order the entries of each table stand,
and whether the view comes before the tables. -/
structure Format where
  style : Toml.Style
  order : List (String × String) → List (String × String)
  order_perm : ∀ entries, (order entries).Perm entries
  viewFirst : Bool

/-- Strings are escaped only where they must be, entries stand in their usual order, and the tables come
before the view. -/
def Format.plain : Format where
  style := Toml.Style.plain
  order := id
  order_perm := fun _ => .refl _
  viewFirst := false

namespace Overrides

/-- The standard layout with what is given in place of its own. -/
def layout (o : Overrides) : Layout where
  dataset := o.dataset.getD standard.dataset
  location := o.location.getD standard.location
  description := o.description.getD standard.description
  schemaDirectory := (o.schemaDirectory.map Path.ofString).getD standard.schemaDirectory
  partitionExpiration := o.partitionExpiration.getD standard.partitionExpiration
  tables := if o.tables = [] then standard.tables else o.tables
  view :=
    { name := (o.view.bind ViewOverrides.name).getD View.standard.name
      source := (o.view.bind ViewOverrides.source).getD View.standard.source }

/-- Everything that a layout holds; its directory is given as text. -/
def all (layout : Layout) (directory : String) : Overrides where
  dataset := layout.dataset
  location := layout.location
  description := layout.description
  schemaDirectory := directory
  partitionExpiration := layout.partitionExpiration
  view := some ⟨layout.view.name, layout.view.source⟩
  tables := layout.tables

theorem layout_all {layout : Layout} {directory : String}
    (hdirectory : layout.schemaDirectory = Path.ofString directory) (htables : layout.tables ≠ []) :
    (all layout directory).layout = layout := by
  simp [all, Overrides.layout, htables, ← hdirectory]

/-! ## How it is written -/

/-- The texts outside of any section, by their keys. -/
def parts (o : Overrides) : List (String × Option String) :=
  [("dataset", o.dataset), ("location", o.location), ("description", o.description),
    ("proto_dir", o.schemaDirectory), ("partition_expiration", o.partitionExpiration)]

/-- The section of the view. -/
def viewLines (o : Overrides) (format : Format) : List Toml.Line :=
  match o.view with
  | none => []
  | some view =>
    Toml.linesUnder (.tableHeader "view") (format.order (given (viewParts view.name view.source)))

/-- The sections of the tables. -/
def tableLines (o : Overrides) (format : Format) : List Toml.Line :=
  o.tables.flatMap fun table =>
    Toml.linesUnder (.elementHeader "tables") (format.order (given (tableParts table)))

/-- The lines of a file. -/
def lines (o : Overrides) (format : Format) : List Toml.Line :=
  Toml.entryLines (format.order (given o.parts)) ++
    if format.viewFirst then o.viewLines format ++ o.tableLines format
    else o.tableLines format ++ o.viewLines format

/-- The octets of a file. -/
def octets (o : Overrides) (format : Format) : List UInt8 :=
  Text.Utf8.encode ((o.lines format).flatMap (Toml.Line.render format.style))

/-! ## What it is read as -/

/-- The value of the view's section. -/
def viewValues (o : Overrides) (format : Format) : Toml.Entries :=
  match o.view with
  | none => []
  | some view =>
    [("view", .table (Toml.tableOf (format.order (given (viewParts view.name view.source)))))]

/-- The value of the tables' sections. -/
def tableValues (o : Overrides) (format : Format) : Toml.Entries :=
  if o.tables = [] then []
  else
    [("tables", .array (o.tables.map fun table =>
      .table (Toml.tableOf (format.order (given (tableParts table))))))]

/-- Everything that a file gives. -/
def values (o : Overrides) (format : Format) : Toml.Entries :=
  Toml.strings (given o.parts) ++ (o.viewValues format ++ o.tableValues format)

end Overrides

theorem keys_order_given_nodup (format : Format) {parts : List (String × Option String)}
    (hkeys : (parts.map Prod.fst).Nodup) :
    ((format.order (given parts)).map Prod.fst).Nodup :=
  ((format.order_perm _).map Prod.fst).nodup_iff.2 (hkeys.sublist (keys_given_sublist parts))

theorem tableOf_order_perm (format : Format) {parts : List (String × Option String)}
    (hkeys : (parts.map Prod.fst).Nodup) :
    (Toml.tableOf (format.order (given parts))).Perm (Toml.strings (given parts)) :=
  (Toml.tableOf_perm (keys_order_given_nodup format hkeys)).trans ((format.order_perm _).map _)

namespace Overrides
variable (o : Overrides) (format : Format)

theorem adds_viewLines : Toml.Adds (o.viewLines format) (o.viewValues format) := by
  unfold viewLines viewValues
  cases o.view with
  | none => exact Toml.adds_nil
  | some view => exact Toml.adds_table (keys_order_given_nodup format (by simp [viewParts]))

theorem adds_tableLines : Toml.Adds (o.tableLines format) (o.tableValues format) := by
  unfold tableLines tableValues
  split
  · next hnil =>
    rw [hnil]
    exact Toml.adds_nil
  · next hne =>
    have hkeys : ∀ entries ∈ o.tables.map fun table => format.order (given (tableParts table)),
        (entries.map Prod.fst).Nodup := by
      simp only [List.forall_mem_map]
      exact fun table _ => keys_order_given_nodup format (by simp [tableParts])
    have hadds := Toml.adds_array (by simpa using hne) hkeys
    simpa [List.flatMap_map, Function.comp_def] using hadds "tables"

/-- The keys of a file are those of a layout, each at most once. -/
theorem keys_nodup :
    (o.parts.map Prod.fst ++ (o.viewValues format ++ o.tableValues format).map Prod.fst).Nodup := by
  unfold viewValues tableValues
  split <;> split <;> simp [parts]

theorem exists_set {key t : String} (h : (key, some t) ∈ o.parts) (layout : Layout) :
    ∃ layout', layout.set key (.string t) = .ok layout' := by
  simp only [parts, List.mem_cons, Prod.mk.injEq, List.not_mem_nil, or_false] at h
  rcases h with ⟨rfl, -⟩ | ⟨rfl, -⟩ | ⟨rfl, -⟩ | ⟨rfl, -⟩ | ⟨rfl, -⟩ <;> exact ⟨_, rfl⟩

/-- The section of the view is read as its texts, laid over the standard view. -/
theorem viewValues_cases :
    (o.viewValues format = [] ∧ o.layout.view = standard.view) ∨
      ∃ v, o.viewValues format = [("view", v)] ∧ viewOfValue v = .ok o.layout.view := by
  cases hview : o.view with
  | none => exact .inl ⟨by simp [viewValues, hview], by simp [Overrides.layout, hview, standard]⟩
  | some view =>
    refine .inr ⟨_, by rw [viewValues, hview], ?_⟩
    rw [viewOfValue_table (tableOf_order_perm format (by simp [viewParts]))]
    simp [Overrides.layout, hview]

/-- The sections of the tables are read as the tables, in their order. -/
theorem tableValues_cases :
    (o.tableValues format = [] ∧ o.layout.tables = standard.tables) ∨
      ∃ v, o.tableValues format = [("tables", v)] ∧ tablesOfValue v = .ok o.layout.tables := by
  by_cases hnil : o.tables = []
  · exact .inl ⟨if_pos hnil, if_pos hnil⟩
  · refine .inr ⟨_, if_neg hnil, ?_⟩
    rw [tablesOfValue_array fun table _ => tableOf_order_perm format (by simp [tableParts])]
    simp [Overrides.layout, hnil]

section Entries
variable {o format} {entries : Toml.Entries}

theorem mem_viewValues (hentries : entries.Perm (o.values format))
    (v : Toml.Value) : ("view", v) ∈ entries ↔ ("view", v) ∈ o.viewValues format := by
  rw [hentries.mem_iff, values]
  rcases o.tableValues_cases format with ⟨htables, -⟩ | ⟨_, htables, -⟩ <;>
    simp [htables, mem_strings_given, parts]

theorem mem_tableValues (hentries : entries.Perm (o.values format))
    (v : Toml.Value) : ("tables", v) ∈ entries ↔ ("tables", v) ∈ o.tableValues format := by
  rw [hentries.mem_iff, values]
  rcases o.viewValues_cases format with ⟨hview, -⟩ | ⟨_, hview, -⟩ <;>
    simp [hview, mem_strings_given, parts]

theorem exists_ofEntries (hentries : entries.Perm (o.values format)) :
    ∃ layout, ofEntries entries = .ok layout := by
  unfold ofEntries
  refine exists_run ?_
  rintro ⟨key, v⟩ hentry layout
  have hmem := hentries.mem_iff.1 hentry
  rw [values, List.mem_append, List.mem_append] at hmem
  rcases hmem with htext | hview | htables
  · obtain ⟨t, hpart, rfl⟩ := mem_strings_given.1 htext
    exact o.exists_set hpart layout
  · rcases o.viewValues_cases format with ⟨hnone, -⟩ | ⟨w, hone, hread⟩
    · simp [hnone] at hview
    · obtain ⟨rfl, rfl⟩ : key = "view" ∧ v = w := by simpa [hone] using hview
      exact ⟨{ layout with view := o.layout.view }, by simp [set, hread, Except.map]⟩
  · rcases o.tableValues_cases format with ⟨hnone, -⟩ | ⟨w, hone, hread⟩
    · simp [hnone] at htables
    · obtain ⟨rfl, rfl⟩ : key = "tables" ∧ v = w := by simpa [hone] using htables
      exact ⟨{ layout with tables := o.layout.tables }, by simp [set, hread, Except.map]⟩

/-- What a file gives is laid over the standard layout, whatever the order of its entries. -/
theorem ofEntries_eq (hentries : entries.Perm (o.values format)) :
    ofEntries entries = .ok o.layout := by
  have hkeys := o.keys_nodup format
  have hnodup := Layout.keys_nodup hentries hkeys
  obtain ⟨layout, hrun⟩ := exists_ofEntries hentries
  have hdataset := dataset_isReadBy.run_given o.dataset (fun _ => rfl) hentries hkeys hrun
    (by simp [parts])
  have hlocation := location_isReadBy.run_given o.location (fun _ => rfl) hentries hkeys hrun
    (by simp [parts])
  have hdescription := description_isReadBy.run_given o.description (fun _ => rfl) hentries hkeys hrun
    (by simp [parts])
  have hdirectory := schemaDirectory_isReadBy.run_given o.schemaDirectory (fun _ => rfl) hentries hkeys hrun
    (by simp [parts])
  have hexpiration := partitionExpiration_isReadBy.run_given o.partitionExpiration (fun _ => rfl) hentries hkeys hrun
    (by simp [parts])
  have hview := view_isReadBy.run_value hnodup hrun (o.viewValues_cases format)
    (mem_viewValues hentries)
  have htables := tables_isReadBy.run_value hnodup hrun (o.tableValues_cases format)
    (mem_tableValues hentries)
  rw [Option.map_id_fun', id] at hdataset hlocation hdescription hexpiration
  have hlayout : layout = o.layout := by
    rcases layout with ⟨dataset, location, description, directory, expiration, tables, view⟩
    simp only [Overrides.layout, Layout.mk.injEq]
    exact ⟨hdataset, hlocation, hdescription, hdirectory, hexpiration, htables, hview⟩
  rw [hrun, hlayout]

end Entries

/-! ## Reading it -/

theorem isBareKey_entryLines (format : Format) {parts : List (String × Option String)}
    (h : ∀ part ∈ parts, Toml.isBareKey part.1 = true) :
    ∀ line ∈ Toml.entryLines (format.order (given parts)), Toml.isBareKey line.key = true := by
  intro line hline
  obtain ⟨⟨key, t⟩, hentry, rfl⟩ := List.mem_map.1 hline
  exact h _ (mem_given.1 ((format.order_perm _).mem_iff.1 hentry))

theorem isBareKey_lines : ∀ line ∈ o.lines format, Toml.isBareKey line.key = true := by
  have hparts : ∀ part ∈ o.parts, Toml.isBareKey part.1 = true := by
    simp [parts]
    decide
  have htop := isBareKey_entryLines format hparts
  have hview : ∀ line ∈ o.viewLines format, Toml.isBareKey line.key = true := by
    unfold viewLines
    cases o.view with
    | none => simp
    | some view =>
      exact List.forall_mem_cons.2 ⟨by decide,
        isBareKey_entryLines format (by simp [viewParts]; decide)⟩
  have htables : ∀ line ∈ o.tableLines format, Toml.isBareKey line.key = true := by
    intro line hline
    obtain ⟨table, -, hline⟩ := List.mem_flatMap.1 hline
    exact List.forall_mem_cons.2 ⟨by decide,
      isBareKey_entryLines format (by simp [tableParts]; decide)⟩ line hline
  intro line hline
  rcases List.mem_append.1 hline with hline | hline
  · exact htop line hline
  · have hsection : line ∈ o.viewLines format ∨ line ∈ o.tableLines format := by
      split at hline
      · exact List.mem_append.1 hline
      · exact (List.mem_append.1 hline).symm
    exact hsection.elim (hview line) (htables line)

theorem parse_lines :
    parse ((o.lines format).flatMap (Toml.Line.render format.style)) = .ok o.layout := by
  have hadds : Toml.Adds
      (if format.viewFirst then o.viewLines format ++ o.tableLines format
        else o.tableLines format ++ o.viewLines format)
      (o.viewValues format ++ o.tableValues format) := by
    have hview := o.adds_viewLines format
    have htables := o.adds_tableLines format
    split
    · exact hview.append htables
    · exact (htables.append hview).perm List.perm_append_comm
  have hkeys : ((format.order (given o.parts)).map Prod.fst ++
      (o.viewValues format ++ o.tableValues format).map Prod.fst).Nodup := by
    have horder := (format.order_perm (given o.parts)).map Prod.fst
    exact (horder.append_right _).nodup_iff.2
      ((o.keys_nodup format).sublist ((keys_given_sublist o.parts).append_right _))
  obtain ⟨table, htable, hperm⟩ := Toml.table?_lines hkeys hadds
  have hentries := hperm.trans (((format.order_perm (given o.parts)).map _).append_right _)
  rw [parse, Toml.document?_render format.style (o.isBareKey_lines format), lines, htable]
  show (ofEntries table).mapError Malformed.entry = _
  rw [ofEntries_eq hentries]
  rfl

end Overrides

theorem load_octets (o : Overrides) (format : Format)
    {read : Path → Except SystemError (List UInt8)} {path : Path}
    (hread : read path = .ok (o.octets format)) :
    load read path =
      match validate o.layout with
      | .ok _ => .ok o.layout
      | .error violation => .error (.invalid violation.message) := by
  have htext : (read path).bind textOf =
      .ok ((o.lines format).flatMap (Toml.Line.render format.style)) := by
    rw [hread, Overrides.octets]
    simp only [Except.bind, textOf, Text.Utf8.decode?_encode]
  rw [load, htext]
  simp only [o.parse_lines format]
  cases hvalid : validate o.layout with
  | error violation => rfl
  | ok valid =>
    rw [(validate_eq_ok_iff.1 hvalid).1]
    rfl

/-- However it is written, a file is read as the standard layout with what it gives in place of its own, if
that is valid, and refused for the first violation otherwise; so every valid layout whose directory is text
can be written in full and read back. -/
theorem load_written (format : Format) :
    (∀ (o : Overrides) (read : Path → Except SystemError (List UInt8)) (path : Path),
      read path = .ok (o.octets format) →
        load read path =
          match validate o.layout with
          | .ok _ => .ok o.layout
          | .error violation => .error (.invalid violation.message)) ∧
    ∀ (layout : Layout) (directory : String) (read : Path → Except SystemError (List UInt8))
      (path : Path), validate layout = .ok layout → layout.schemaDirectory = Path.ofString directory →
        read path = .ok ((Overrides.all layout directory).octets format) →
          load read path = .ok layout := by
  refine ⟨fun o read path hread => load_octets o format hread, ?_⟩
  intro layout directory read path hvalid hdirectory hread
  have hgiven := Overrides.layout_all hdirectory (validate_eq_ok_iff.1 hvalid).2.tables_ne_nil
  have hall := load_octets (Overrides.all layout directory) format hread
  rw [hgiven, hvalid] at hall
  exact hall

theorem load_written_quoted :
    load (fun _ => .ok (Text.Utf8.encode
        ("dataset = \"swarming_dev\"\n".toList ++
          "description = \"a \\\"tab\\\"\\t, \\\\ and é\\u0001\"\n".toList ++
          "[[tables]]\nmessage = \"swarming.v1.BotEvent\"\ntable = \"events\"\n".toList ++
          "partitioning_field = \"event_time\"\n[view]\nsource_table = \"events\"\n".toList)))
      (Path.ofString "bq.toml") =
      .ok { standard with
        dataset := "swarming_dev"
        description := "a \"tab\"\t, \\ and é\x01"
        tables := [⟨"swarming.v1.BotEvent", "events", "event_time"⟩]
        view := ⟨"bot_events_delta", "events"⟩ } ∧
    load (fun _ => .ok (Text.Utf8.encode "dataset = \"no name\"\n".toList))
      (Path.ofString "bq.toml") =
      .error (.invalid "dataset must be a BigQuery identifier, got \"no name\"") ∧
    load (fun _ => .ok ((Overrides.all standard "proto/api").octets Format.plain))
      (Path.ofString "bq.toml") = .ok standard := by
  refine ⟨?_, ?_, ?_⟩
  · exact (load_written Format.plain).1
      { dataset := "swarming_dev"
        description := "a \"tab\"\t, \\ and é\x01"
        view := some { source := "events" }
        tables := [⟨"swarming.v1.BotEvent", "events", "event_time"⟩] }
      _ _ (congrArg (fun text => Except.ok (Text.Utf8.encode text)) (by decide +kernel))
  · exact (load_written Format.plain).1 { dataset := "no name" }
      _ _ (congrArg (fun text => Except.ok (Text.Utf8.encode text)) (by decide +kernel))
  · exact (load_written Format.plain).2 standard "proto/api" _ _ rfl rfl rfl

end Provisioning.Layout
