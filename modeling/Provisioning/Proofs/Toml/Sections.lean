import Provisioning.Proofs.Toml.Listing

/-! # Documents from statements

A document lists some entries of its table at the start; the others are tables, each under a header of its
own, and arrays of tables, with a header for each element. However its entries are written and ordered, the
document describes its table. -/
namespace Provisioning.Toml

/-! ## Open tables -/

/-- An open table: `root inner` is the document in which the table at the path holds `inner`. -/
def IsPlace (path : List String) (root : Nodes → Nodes) : Prop :=
  ∀ (change : Kind → Nodes → Option Nodes) (inner : Nodes),
    alter false change path .opened (root inner) = (change .opened inner).map root

theorem isPlace_root : IsPlace [] id := by
  intro change inner
  simp [alter]

theorem isPlace_table (key : String) (root : Nodes) :
    IsPlace [key] fun inner => put key (.table .opened inner) root := by
  intro change inner
  simp [alter, lookup_put, put_put]

theorem isPlace_element (key : String) (earlier : List Nodes) (root : Nodes) :
    IsPlace [key] fun inner => put key (.tables earlier inner) root := by
  intro change inner
  simp [alter, lookup_put, put_put]

/-- The statements of some entries. -/
def entryStatements (written : List (Key × Value)) : List Statement :=
  written.map fun entry => .entry entry.1 entry.2

/-- A header with entries under it. -/
def under (header : Statement) (written : List (Key × Value)) : List Statement :=
  header :: entryStatements written

section Place
variable {path : List String} {root : Nodes → Nodes} {written : List (Key × Value)} {inner : Nodes}

/-- Entries go to the open table. -/
theorem IsPlace.add_entries (h : IsPlace path root) (written : List (Key × Value)) (inner : Nodes) :
    (entryStatements written).foldlM Draft.add ⟨root inner, path⟩ =
      (written.foldlM enter inner).map fun inner => ⟨root inner, path⟩ := by
  induction written generalizing inner with
  | nil => rfl
  | cons entry rest ih =>
    have hadd : Draft.add ⟨root inner, path⟩ (.entry entry.1 entry.2) =
        (enter inner entry).map fun inner => ⟨root inner, path⟩ := by
      have hplace := h (define entry.1 entry.2) inner
      simp only [Draft.add, hplace, enter, Option.map_map]
      rfl
    rw [entryStatements, List.map_cons, List.foldlM_cons, List.foldlM_cons, hadd]
    cases enter inner entry with
    | none => rfl
    | some inner => exact ih inner

/-- Entries under a header go to the table that it opens. -/
theorem Draft.add_under {d : Draft} {header : Statement} (hplace : IsPlace path root)
    (hopen : d.add header = some ⟨root [], path⟩) (hwritten : written.foldlM enter [] = some inner) :
    (under header written).foldlM Draft.add d = some ⟨root inner, path⟩ := by
  rw [under, List.foldlM_cons, hopen]
  show (entryStatements written).foldlM Draft.add ⟨root [], path⟩ = _
  rw [hplace.add_entries, hwritten]
  rfl

/-- A table under a new header. -/
theorem Draft.add_table {d : Draft} {key : String} (hnew : key ∉ d.root.map Prod.fst)
    (hwritten : written.foldlM enter [] = some inner) :
    (under (.tableHeader ⟨[], key⟩) written).foldlM Draft.add d =
      some ⟨put key (.table .opened inner) d.root, [key]⟩ := by
  have hopen : d.add (.tableHeader ⟨[], key⟩) = some ⟨put key (.table .opened []) d.root, [key]⟩ := by
    simp [Draft.add, openTable, alter, lookup_eq_none hnew, Key.parts]
  have hunder := Draft.add_under (isPlace_table key d.root) hopen hwritten
  exact hunder

/-- The first element of a new array. -/
theorem Draft.add_firstElement {d : Draft} {key : String} (hnew : key ∉ d.root.map Prod.fst)
    (hwritten : written.foldlM enter [] = some inner) :
    (under (.elementHeader ⟨[], key⟩) written).foldlM Draft.add d =
      some ⟨put key (.tables [] inner) d.root, [key]⟩ := by
  have hopen : d.add (.elementHeader ⟨[], key⟩) = some ⟨put key (.tables [] []) d.root, [key]⟩ := by
    simp [Draft.add, openElement, alter, lookup_eq_none hnew, Key.parts]
  have hunder := Draft.add_under (isPlace_element key [] d.root) hopen hwritten
  exact hunder

/-- One more element of an array. -/
theorem Draft.add_element (root : Nodes) (path : List String) (key : String) (earlier : List Nodes)
    (last : Nodes) (hwritten : written.foldlM enter [] = some inner) :
    (under (.elementHeader ⟨[], key⟩) written).foldlM Draft.add ⟨put key (.tables earlier last) root, path⟩ =
      some ⟨put key (.tables (earlier ++ [last]) inner) root, [key]⟩ := by
  have hopen : Draft.add ⟨put key (.tables earlier last) root, path⟩ (.elementHeader ⟨[], key⟩) =
      some ⟨put key (.tables (earlier ++ [last]) []) root, [key]⟩ := by
    simp [Draft.add, openElement, alter, lookup_put, put_put, Key.parts]
  have hunder := Draft.add_under (isPlace_element key (earlier ++ [last]) root) hopen hwritten
  exact hunder

end Place

/-! ## Arrays of tables -/

section Arrays
variable {key : String} {blocks : List (List (Key × Value) × Nodes)}

/-- The statements of an array, whose elements have their entries with the tables that those make. -/
def blockStatements (key : String) (blocks : List (List (Key × Value) × Nodes)) : List Statement :=
  blocks.flatMap fun block => under (.elementHeader ⟨[], key⟩) block.1

/-- Elements are added to an array in order. -/
theorem Draft.add_moreElements (root : Nodes) (path : List String) (earlier : List Nodes) (last : Nodes)
    (hblocks : ∀ block ∈ blocks, block.1.foldlM enter [] = some block.2) :
    ∃ earlier' last' path',
      (blockStatements key blocks).foldlM Draft.add ⟨put key (.tables earlier last) root, path⟩ =
        some ⟨put key (.tables earlier' last') root, path'⟩ ∧
      earlier' ++ [last'] = earlier ++ [last] ++ blocks.map Prod.snd := by
  induction blocks generalizing path earlier last with
  | nil => exact ⟨earlier, last, path, rfl, by simp⟩
  | cons block rest ih =>
    obtain ⟨earlier', last', path', hadd, hall⟩ := ih [key] (earlier ++ [last]) block.2
      fun later hlater => hblocks later (List.mem_cons_of_mem _ hlater)
    refine ⟨earlier', last', path', ?_, by simpa using hall⟩
    rw [blockStatements, List.flatMap_cons, List.foldlM_append,
      Draft.add_element root path key earlier last (hblocks block List.mem_cons_self)]
    exact hadd

/-- A new array, with its elements in the order of their headers. -/
theorem Draft.add_array (key : String) (blocks : List (List (Key × Value) × Nodes)) {d : Draft}
    (hnew : key ∉ d.root.map Prod.fst) (hne : blocks ≠ [])
    (hblocks : ∀ block ∈ blocks, block.1.foldlM enter [] = some block.2) :
    ∃ node path,
      (blockStatements key blocks).foldlM Draft.add d = some ⟨put key node d.root, path⟩ ∧
      node.toValue = .array (blocks.map fun block => .table (finish block.2)) := by
  obtain ⟨block, rest, rfl⟩ := List.exists_cons_of_ne_nil hne
  obtain ⟨earlier, last, path, hadd, hall⟩ := Draft.add_moreElements d.root [key] [] block.2
    fun later hlater => hblocks later (List.mem_cons_of_mem _ hlater)
  refine ⟨.tables earlier last, path, ?_, ?_⟩
  · rw [blockStatements, List.flatMap_cons, List.foldlM_append,
      Draft.add_firstElement hnew (hblocks block List.mem_cons_self)]
    exact hadd
  · have hvalues := congrArg (List.map fun nodes => Value.table (finish nodes)) hall
    simpa [Node.toValue, finishAll_eq_map, Function.comp_def] using hvalues

end Arrays

/-! ## Whole documents -/

/-- The statements that give a key its value behind all listed entries: a table with its entries under a
header, or an array of tables with as many headers as elements. -/
inductive Opens : String × Value → List Statement → Prop
  | table (key : String) {inner : Entries} {written : List (Key × Value)} (h : Lists inner written) :
    Opens (key, .table inner) (under (.tableHeader ⟨[], key⟩) written)
  | array (key : String) {elements : List (Entries × List (Key × Value))} (hne : elements ≠ [])
    (h : ∀ element ∈ elements, Lists element.1 element.2) :
    Opens (key, .array (elements.map fun element => .table element.1))
      (elements.flatMap fun element => under (.elementHeader ⟨[], key⟩) element.2)

/-- The documents of a table: some of its entries are listed at the start, and each other one has a section
of its own. -/
def Documents (table : Entries) (statements : List Statement) : Prop :=
  ∃ listed opened written sections, table.Perm (listed ++ opened) ∧ Lists listed written ∧
    List.Forall₂ Opens opened sections ∧ statements = entryStatements written ++ sections.flatten

theorem Opens.foldlM_eq {key : String} {v : Value} {statements : List Statement}
    (h : Opens (key, v) statements) (hv : v.IsSorted) {d : Draft} (hnew : key ∉ d.root.map Prod.fst) :
    ∃ node path, statements.foldlM Draft.add d = some ⟨put key node d.root, path⟩ ∧ node.toValue = v := by
  cases h with
  | table _ h =>
    obtain ⟨nodes, hnodes, hfinish⟩ := h.exists_finish_eq hv
    exact ⟨_, _, Draft.add_table hnew hnodes, by rw [Node.toValue, hfinish]⟩
  | @array _ elements hne h =>
    cases hv with
    | array helements =>
      rw [List.forall_mem_map] at helements
      have hmake : ∀ element ∈ elements, ∃ nodes, element.2.foldlM enter [] = some nodes ∧
          finish nodes = element.1 :=
        fun element hmem => (h element hmem).exists_finish_eq (helements element hmem)
      choose! make hmade hfinish using hmake
      obtain ⟨node, path, hadd, hvalue⟩ := Draft.add_array key
        (elements.map fun element => (element.2, make element)) hnew (by simpa using hne)
        (List.forall_mem_map.2 hmade)
      refine ⟨node, path, ?_, ?_⟩
      · simpa [blockStatements, List.flatMap_map] using hadd
      · rw [hvalue, List.map_map]
        exact congrArg Value.array (List.map_congr_left fun element hmem =>
          congrArg Value.table (hfinish element hmem))

/-- Sections put their values under their keys, whichever table is open before. -/
theorem foldlM_sections {opened : Entries} {sections : List (List Statement)}
    (hsections : List.Forall₂ Opens opened sections) (hentries : ∀ entry ∈ opened, entry.2.IsSorted)
    {d : Draft} (hkeys : (opened.map Prod.fst ++ d.root.map Prod.fst).Nodup) :
    ∃ d', sections.flatten.foldlM Draft.add d = some d' ∧
      (finish d'.root).Perm (opened ++ finish d.root) := by
  induction hsections generalizing d with
  | nil => exact ⟨d, rfl, .refl _⟩
  | @cons entry statements opened sections hfirst hsections ih =>
    obtain ⟨node, path, hadd, hvalue⟩ := hfirst.foldlM_eq (hentries _ List.mem_cons_self)
      (nodup_put hkeys (Node.value entry.2)).1
    obtain ⟨hnew, hrest⟩ := nodup_put hkeys node
    obtain ⟨d', hlater, hperm⟩ := ih (d := ⟨put entry.1 node d.root, path⟩)
      (fun later hlater => hentries later (List.mem_cons_of_mem _ hlater)) hrest
    refine ⟨d', by rw [List.flatten_cons, List.foldlM_append, hadd]; exact hlater, ?_⟩
    have hput := finish_put_perm hnew node
    rw [hvalue] at hput
    exact hperm.trans ((hput.append_left _).trans List.perm_middle)

theorem isSorted_entryStatements {table : Entries} {written : List (Key × Value)} (h : Lists table written)
    (hentries : ∀ entry ∈ table, entry.2.IsSorted) : ∀ x ∈ entryStatements written, x.IsSorted :=
  List.forall_mem_map.2 (h.isSorted hentries)

theorem isSorted_under (header : Statement) (hheader : header.IsSorted) {table : Entries}
    {written : List (Key × Value)} (h : Lists table written) (htable : (Value.table table).IsSorted) :
    ∀ x ∈ under header written, x.IsSorted := by
  cases htable with
  | table _ hentries => exact List.forall_mem_cons.2 ⟨hheader, isSorted_entryStatements h hentries⟩

theorem Opens.isSorted {entry : String × Value} {statements : List Statement} (h : Opens entry statements)
    (hentry : entry.2.IsSorted) : ∀ x ∈ statements, x.IsSorted := by
  cases h with
  | table _ h => exact isSorted_under (.tableHeader _) trivial h hentry
  | array _ _ h =>
    cases hentry with
    | array helements =>
      rw [List.forall_mem_map] at helements
      intro x hx
      obtain ⟨element, hmem, hx⟩ := List.mem_flatMap.1 hx
      exact isSorted_under (.elementHeader _) trivial (h element hmem) (helements element hmem) x hx

theorem isSorted_sections {opened : Entries} {sections : List (List Statement)}
    (hsections : List.Forall₂ Opens opened sections) (hentries : ∀ entry ∈ opened, entry.2.IsSorted) :
    ∀ x ∈ sections.flatten, x.IsSorted := by
  induction hsections with
  | nil => simp
  | cons hfirst _ ih =>
    rw [List.flatten_cons, List.forall_mem_append]
    rw [List.forall_mem_cons] at hentries
    exact ⟨hfirst.isSorted hentries.1, ih hentries.2⟩

theorem Documents.isSorted {table : Entries} {statements : List Statement} (h : Documents table statements)
    (htable : (Value.table table).IsSorted) : ∀ x ∈ statements, x.IsSorted := by
  obtain ⟨listed, opened, written, sections, hperm, hlists, hsections, rfl⟩ := h
  cases htable with
  | table _ hentries =>
    have hparts : ∀ entry ∈ listed ++ opened, entry.2.IsSorted :=
      fun entry hmem => hentries entry (hperm.mem_iff.2 hmem)
    rw [List.forall_mem_append] at hparts ⊢
    exact ⟨isSorted_entryStatements hlists hparts.1, isSorted_sections hsections hparts.2⟩

/-- However it is written, a document describes its table. -/
theorem table?_documents {table : Entries} {statements : List Statement} (h : Documents table statements)
    (htable : (Value.table table).IsSorted) : table? statements = some table := by
  have hsorted := h.isSorted htable
  obtain ⟨listed, opened, written, sections, hperm, hlists, hsections, rfl⟩ := h
  cases htable with
  | table horder hentries =>
    have hkeys : (listed.map Prod.fst ++ opened.map Prod.fst).Nodup := by
      rw [← List.map_append]
      exact (hperm.map Prod.fst).nodup_iff.1 horder.keys_nodup
    have hlisted : ∀ entry ∈ listed, entry.2.IsSorted :=
      fun entry hmem => hentries entry (hperm.mem_iff.2 (List.mem_append_left _ hmem))
    have hopened : ∀ entry ∈ opened, entry.2.IsSorted :=
      fun entry hmem => hentries entry (hperm.mem_iff.2 (List.mem_append_right _ hmem))
    obtain ⟨nodes, hnodes, htop⟩ := hlists.foldlM_eq (List.Nodup.of_append_left hkeys) hlisted
    have hroot : (nodes.map Prod.fst).Perm (listed.map Prod.fst) := by
      simpa [keys_finish] using htop.map Prod.fst
    obtain ⟨d, hd, hall⟩ := foldlM_sections hsections hopened (d := ⟨nodes, []⟩)
      ((hroot.append_left _).nodup_iff.2 (List.perm_append_comm.nodup_iff.1 hkeys))
    have hstatements : table? (entryStatements written ++ sections.flatten) = some (finish d.root) := by
      have hstart : (entryStatements written).foldlM Draft.add {} = some ⟨nodes, []⟩ := by
        have hplace := isPlace_root.add_entries written []
        rwa [hnodes] at hplace
      rw [table?, List.foldlM_append, hstart]
      show (sections.flatten.foldlM Draft.add ⟨nodes, []⟩).map _ = _
      rw [hd]
      rfl
    have hfinish : (finish d.root).Perm table :=
      hall.trans (((htop.append_left _).trans List.perm_append_comm).trans hperm.symm)
    cases table?_isSorted hsorted hstatements with
    | table hinOrder _ => rw [hstatements, hinOrder.eq_of_perm horder hfinish]

end Provisioning.Toml
