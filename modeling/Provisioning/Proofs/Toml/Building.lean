import Provisioning.Proofs.Toml.Lines
import Provisioning.Proofs.Toml.Sections

/-! # Tables from written lines

What a document describes when its lines give no key twice: entries go to the table of the last header,
each header opens a table or one more element of an array, and the order of the lines only matters for
the elements. -/
namespace Provisioning.Toml

/-! ## Entries with texts -/

/-- Entries with texts for values. -/
def strings (entries : List (String × String)) : Entries :=
  entries.map fun entry => (entry.1, .string entry.2)

theorem keys_strings (entries : List (String × String)) :
    (strings entries).map Prod.fst = entries.map Prod.fst := by
  simp [strings, Function.comp_def]

/-- A table with the entries of some lines. -/
def fill (entries : List (String × String)) (nodes : Nodes) : Nodes :=
  entries.foldl (fun nodes entry => put entry.1 (.value (.string entry.2)) nodes) nodes

theorem fill_eq (entries : List (String × String)) (nodes : Nodes) :
    fill entries nodes = enterAll (strings entries) nodes := by
  simp [fill, enterAll, strings, List.foldl_map]

/-- The finished table of some lines. -/
def tableOf (entries : List (String × String)) : Entries :=
  finish (fill entries [])

theorem tableOf_perm {entries : List (String × String)} (h : (entries.map Prod.fst).Nodup) :
    (tableOf entries).Perm (strings entries) := by
  have hkeys : ((strings entries).map Prod.fst ++ ([] : Nodes).map Prod.fst).Nodup := by
    simpa [keys_strings] using h
  have hperm := (enterAll_perm hkeys).map fun entry => (entry.1, entry.2.toValue)
  rw [tableOf, fill_eq, finish_eq_map]
  simpa [Function.comp_def, Node.toValue] using hperm

theorem statements_entryLines (entries : List (String × String)) :
    (entryLines entries).map Line.statement = entryStatements (undotted (strings entries)) := by
  simp [entryLines, entryStatements, undotted, strings, Function.comp_def, Line.statement]

theorem statements_linesUnder (header : Line) (entries : List (String × String)) :
    (linesUnder header entries).map Line.statement =
      under header.statement (undotted (strings entries)) := by
  rw [linesUnder, List.map_cons, statements_entryLines, under]

theorem foldlM_strings {entries : List (String × String)} (hkeys : (entries.map Prod.fst).Nodup) :
    (undotted (strings entries)).foldlM enter [] = some (fill entries []) := by
  rw [fill_eq]
  exact foldlM_undotted (by simpa [keys_strings] using hkeys)

/-- A document after some lines. -/
def Draft.write (d : Draft) (lines : List Line) : Option Draft :=
  (lines.map Line.statement).foldlM Draft.add d

theorem Draft.write_append (d : Draft) (before after : List Line) :
    d.write (before ++ after) = (d.write before).bind (·.write after) := by
  simp only [write, List.map_append, List.foldlM_append]
  rfl

/-! ## Whole documents -/

/-- Some lines put values under keys of their own into any document that does not have them yet,
whichever table is open before. -/
def Adds (lines : List Line) (values : Entries) : Prop :=
  ∀ d : Draft, (values.map Prod.fst ++ d.root.map Prod.fst).Nodup →
    ∃ d', d.write lines = some d' ∧ (finish d'.root).Perm (values ++ finish d.root)

theorem adds_nil : Adds [] [] :=
  fun d _ => ⟨d, rfl, .refl _⟩

theorem adds_table {key : String} {entries : List (String × String)}
    (hkeys : (entries.map Prod.fst).Nodup) :
    Adds (linesUnder (.tableHeader key) entries) [(key, .table (tableOf entries))] := by
  intro d hnew
  have hkey := (List.nodup_cons.1 hnew).1
  refine ⟨⟨put key (.table .opened (fill entries [])) d.root, [key]⟩, ?_, ?_⟩
  · rw [Draft.write, statements_linesUnder]
    exact Draft.add_table hkey (foldlM_strings hkeys)
  have hperm := finish_put_perm hkey (.table .opened (fill entries []))
  rwa [Node.toValue] at hperm

theorem adds_array {elements : List (List (String × String))} (hne : elements ≠ [])
    (hkeys : ∀ entries ∈ elements, (entries.map Prod.fst).Nodup) (key : String) :
    Adds (elements.flatMap (linesUnder (.elementHeader key)))
      [(key, .array (elements.map fun entries => .table (tableOf entries)))] := by
  intro d hnew
  have hkey := (List.nodup_cons.1 hnew).1
  obtain ⟨node, path, hadd, hvalue⟩ := Draft.add_array key
    (elements.map fun entries => (undotted (strings entries), fill entries [])) hkey (by simpa using hne)
    (List.forall_mem_map.2 fun entries hmem => foldlM_strings (hkeys entries hmem))
  refine ⟨⟨put key node d.root, path⟩, ?_, ?_⟩
  · simpa [Draft.write, blockStatements, List.map_flatMap, List.flatMap_map, statements_linesUnder,
      Line.statement] using hadd
  · have hput := finish_put_perm hkey node
    rwa [hvalue, List.map_map] at hput

theorem Adds.append {before after : List Line} {values more : Entries} (h : Adds before values)
    (hmore : Adds after more) : Adds (before ++ after) (values ++ more) := by
  intro d hnew
  have hswap : ∀ root : Entries, (more ++ (values ++ root)).Perm (values ++ more ++ root) := by
    intro root
    rw [← List.append_assoc]
    exact List.perm_append_comm.append_right root
  have hnew' : (more.map Prod.fst ++ (values.map Prod.fst ++ d.root.map Prod.fst)).Nodup := by
    have hkeys := ((hswap (finish d.root)).map Prod.fst).symm.nodup
    simp only [List.map_append, keys_finish] at hkeys
    exact hkeys (by simpa using hnew)
  obtain ⟨d₁, hbefore, hroot₁⟩ := h d (List.Nodup.of_append_right hnew')
  have hkeys₁ : (d₁.root.map Prod.fst).Perm (values.map Prod.fst ++ d.root.map Prod.fst) := by
    simpa [keys_finish] using hroot₁.map Prod.fst
  obtain ⟨d₂, hafter, hroot₂⟩ := hmore d₁ ((hkeys₁.append_left _).nodup_iff.2 hnew')
  refine ⟨d₂, by rw [Draft.write_append, hbefore]; exact hafter, ?_⟩
  exact (hroot₂.trans (hroot₁.append_left _)).trans (hswap _)

theorem Adds.perm {lines : List Line} {values values' : Entries} (h : Adds lines values)
    (hperm : values.Perm values') : Adds lines values' := by
  intro d hnew
  obtain ⟨d', hwrite, hroot⟩ := h d
    (((hperm.map Prod.fst).append_right _).nodup_iff.2 hnew)
  exact ⟨d', hwrite, hroot.trans (hperm.append_right _)⟩

/-- What a document of some entries and further lines describes. -/
theorem table?_lines {entries : List (String × String)} {lines : List Line} {values : Entries}
    (hkeys : (entries.map Prod.fst ++ values.map Prod.fst).Nodup) (h : Adds lines values) :
    ∃ table, table? ((entryLines entries ++ lines).map Line.statement) = some table ∧
      table.Perm (strings entries ++ values) := by
  have hentries : (entries.map Prod.fst).Nodup := List.Nodup.of_append_left hkeys
  have hwrite : Draft.write {} (entryLines entries) = some ⟨fill entries [], []⟩ := by
    have hplace := isPlace_root.add_entries (undotted (strings entries)) []
    rwa [foldlM_strings hentries, ← statements_entryLines] at hplace
  have htop : (finish (fill entries [])).Perm (strings entries) :=
    tableOf_perm hentries
  have hroot : ((fill entries []).map Prod.fst).Perm (entries.map Prod.fst) := by
    simpa [keys_finish, keys_strings] using htop.map Prod.fst
  obtain ⟨d, hlines, hall⟩ := h ⟨fill entries [], []⟩
    ((hroot.append_left _).nodup_iff.2 (List.perm_append_comm.nodup_iff.1 hkeys))
  refine ⟨finish d.root, ?_, hall.trans ((htop.append_left _).trans List.perm_append_comm)⟩
  have hdocument : Draft.write {} (entryLines entries ++ lines) = some d := by
    rw [Draft.write_append, hwrite]
    exact hlines
  rw [Draft.write] at hdocument
  rw [table?, hdocument]
  rfl

end Provisioning.Toml
