import Provisioning.Proofs.Toml.Order
import Provisioning.Toml.Document

/-! # Documents are sorted

Every table that is read has its entries in the order of their keys, however it was written, and so have
all tables within it. A table is therefore known by the entries that it has. -/
namespace Provisioning.Toml

/-! ## Sorted values -/

/-- A value of which every table has its entries in order. -/
inductive Value.IsSorted : Value → Prop
  | string (text : String) : IsSorted (.string text)
  | integer (n : Int) : IsSorted (.integer n)
  | illegible : IsSorted .illegible
  | real (x : Real) : IsSorted (.real x)
  | boolean (b : Bool) : IsSorted (.boolean b)
  | dateTime (text : String) : IsSorted (.dateTime text)
  | array {elements : List Value} (helements : ∀ v ∈ elements, IsSorted v) : IsSorted (.array elements)
  | table {entries : Entries} (horder : InOrder entries) (hentries : ∀ entry ∈ entries, IsSorted entry.2) :
    IsSorted (.table entries)

/-- A part of a document of which every table has its entries in order. -/
inductive Node.IsSorted : Node → Prop
  | value {v : Value} (h : v.IsSorted) : IsSorted (.value v)
  | table {kind : Kind} {nodes : Nodes} (horder : InOrder nodes)
    (hnodes : ∀ entry ∈ nodes, IsSorted entry.2) : IsSorted (.table kind nodes)
  | tables {earlier : List Nodes} {last : Nodes} (horder : ∀ nodes ∈ last :: earlier, InOrder nodes)
    (hnodes : ∀ nodes ∈ last :: earlier, ∀ entry ∈ nodes, IsSorted entry.2) :
    IsSorted (.tables earlier last)

/-- The entries of a sorted table under construction. -/
structure AreSorted (nodes : Nodes) : Prop where
  order : InOrder nodes
  each : ∀ entry ∈ nodes, entry.2.IsSorted

theorem areSorted_nil : AreSorted [] where
  order := .nil
  each := by simp

theorem AreSorted.put {nodes : Nodes} {key : String} {node : Node} (h : AreSorted nodes)
    (hnode : node.IsSorted) : AreSorted (put key node nodes) where
  order := h.order.put node
  each entry hentry := by
    rcases mem_put hentry with rfl | hentry
    · exact hnode
    · exact h.each entry hentry

theorem AreSorted.lookup {nodes : Nodes} {key : String} {node : Node} (h : AreSorted nodes)
    (hnode : nodes.lookup key = some node) : node.IsSorted :=
  h.each _ (mem_of_lookup hnode)

theorem AreSorted.table {nodes : Nodes} (h : AreSorted nodes) (kind : Kind) :
    (Node.table kind nodes).IsSorted :=
  .table h.order h.each

theorem areSorted_of_table {nodes : Nodes} {kind : Kind} (h : (Node.table kind nodes).IsSorted) :
    AreSorted nodes := by
  cases h with
  | table horder hnodes => exact ⟨horder, hnodes⟩

theorem isSorted_tables_iff {earlier : List Nodes} {last : Nodes} :
    (Node.tables earlier last).IsSorted ↔ ∀ nodes ∈ last :: earlier, AreSorted nodes := by
  constructor
  · rintro (_ | _ | ⟨horder, hnodes⟩) nodes hmem
    exact ⟨horder nodes hmem, hnodes nodes hmem⟩
  · exact fun h => .tables (fun nodes hmem => (h nodes hmem).order) fun nodes hmem => (h nodes hmem).each

/-! ## Tables under construction stay sorted -/

/-- A change of a table that keeps it sorted. -/
def KeepsSorted (change : Kind → Nodes → Option Nodes) : Prop :=
  ∀ kind nodes nodes', AreSorted nodes → change kind nodes = some nodes' → AreSorted nodes'

theorem KeepsSorted.alter {change : Kind → Nodes → Option Nodes} (h : KeepsSorted change)
    (dotted : Bool) (path : List String) : KeepsSorted (alter dotted change path) := by
  induction path with
  | nil => exact h
  | cons key path ih =>
    intro kind nodes nodes' hnodes halter
    rw [Toml.alter] at halter
    cases hlookup : nodes.lookup key with
    | none =>
      rw [hlookup] at halter
      obtain ⟨inner, hinner, rfl⟩ := Option.map_eq_some_iff.1 halter
      exact hnodes.put ((ih _ _ _ areSorted_nil hinner).table _)
    | some node =>
      have hnode := hnodes.lookup hlookup
      rw [hlookup] at halter
      cases node with
      | value v => cases halter
      | table kind inner =>
        simp only [Option.ite_none_left_eq_some] at halter
        obtain ⟨inner', hinner, rfl⟩ := Option.map_eq_some_iff.1 halter.2
        exact hnodes.put ((ih _ _ _ (areSorted_of_table hnode) hinner).table _)
      | tables earlier last =>
        have hall := isSorted_tables_iff.1 hnode
        obtain ⟨last', hlast, rfl⟩ := Option.map_eq_some_iff.1 halter
        refine hnodes.put (isSorted_tables_iff.2 (List.forall_mem_cons.2 ⟨?_, ?_⟩))
        · exact ih _ _ _ (hall last List.mem_cons_self) hlast
        · exact fun nodes hmem => hall nodes (List.mem_cons_of_mem _ hmem)

theorem keepsSorted_define (key : Key) {v : Value} (hv : v.IsSorted) : KeepsSorted (define key v) := by
  refine KeepsSorted.alter ?_ _ key.path
  intro kind nodes nodes' hnodes hchange
  simp only [Option.ite_none_left_eq_some, Option.some.injEq] at hchange
  obtain ⟨-, -, rfl⟩ := hchange
  exact hnodes.put (.value hv)

theorem openTable_areSorted {key : Key} {root root' : Nodes} (hroot : AreSorted root)
    (h : openTable key root = some root') : AreSorted root' := by
  refine KeepsSorted.alter ?_ false key.path .opened root root' hroot h
  intro kind nodes nodes' hnodes hchange
  dsimp only at hchange
  split at hchange
  · cases hchange
    exact hnodes.put (areSorted_nil.table _)
  · next hlookup =>
    cases hchange
    exact hnodes.put ((areSorted_of_table (hnodes.lookup hlookup)).table _)
  · cases hchange

theorem openElement_areSorted {key : Key} {root root' : Nodes} (hroot : AreSorted root)
    (h : openElement key root = some root') : AreSorted root' := by
  refine KeepsSorted.alter ?_ false key.path .opened root root' hroot h
  intro kind nodes nodes' hnodes hchange
  dsimp only at hchange
  split at hchange
  · cases hchange
    exact hnodes.put (isSorted_tables_iff.2 (by simp [areSorted_nil]))
  · next hlookup =>
    cases hchange
    have hall := isSorted_tables_iff.1 (hnodes.lookup hlookup)
    refine hnodes.put (isSorted_tables_iff.2 (List.forall_mem_cons.2 ⟨areSorted_nil, ?_⟩))
    intro nodes hmem
    refine hall nodes ?_
    simpa [or_comm] using hmem
  · cases hchange

/-! ## Finished tables are sorted -/

theorem isSorted_finish_of {nodes : Nodes} (horder : InOrder nodes)
    (h : ∀ entry ∈ nodes, entry.2.toValue.IsSorted) : (Value.table (finish nodes)).IsSorted := by
  rw [finish_eq_map]
  exact .table horder.map (List.forall_mem_map.2 h)

theorem Node.IsSorted.toValue {node : Node} (h : node.IsSorted) : node.toValue.IsSorted := by
  induction h with
  | value h => rwa [Node.toValue]
  | table horder hnodes ih =>
    rw [Node.toValue]
    exact isSorted_finish_of horder ih
  | @tables earlier last horder hnodes ih =>
    rw [Node.toValue, finishAll_eq_map]
    have hall : ∀ nodes ∈ last :: earlier, (Value.table (finish nodes)).IsSorted :=
      fun nodes hmem => isSorted_finish_of (horder nodes hmem) (ih nodes hmem)
    rw [List.forall_mem_cons] at hall
    refine .array ?_
    simp only [List.mem_append, List.mem_map, List.mem_singleton]
    rintro v (⟨nodes, hmem, rfl⟩ | rfl)
    · exact hall.2 nodes hmem
    · exact hall.1

theorem AreSorted.finish {nodes : Nodes} (h : AreSorted nodes) : (Value.table (finish nodes)).IsSorted :=
  isSorted_finish_of h.order fun entry hentry => (h.each entry hentry).toValue

/-- What the steps of a computation keep, the computation keeps. -/
theorem foldlM_keeps {σ α : Type} {step : σ → α → Option σ} {P : σ → Prop} {items : List α}
    (hstep : ∀ s, ∀ item ∈ items, ∀ s', P s → step s item = some s' → P s') {s s' : σ} (hs : P s)
    (hrun : items.foldlM step s = some s') : P s' := by
  induction items generalizing s with
  | nil =>
    cases hrun
    exact hs
  | cons item rest ih =>
    rw [List.foldlM_cons] at hrun
    obtain ⟨s₁, hfirst, hrest⟩ := Option.bind_eq_some_iff.1 hrun
    exact ih (fun s later hlater => hstep s later (List.mem_cons_of_mem _ hlater))
      (hstep s item List.mem_cons_self s₁ hs hfirst) hrest

theorem inlineTable?_isSorted {entries : List (Key × Value)} {v : Value}
    (hentries : ∀ entry ∈ entries, entry.2.IsSorted) (h : inlineTable? entries = some v) : v.IsSorted := by
  obtain ⟨nodes, hnodes, rfl⟩ := Option.map_eq_some_iff.1 h
  refine AreSorted.finish (foldlM_keeps (P := AreSorted) ?_ areSorted_nil hnodes)
  exact fun s entry hentry s' hs hdefine =>
    keepsSorted_define entry.1 (hentries entry hentry) .opened s s' hs hdefine

/-- A statement of which the value, if it has one, is sorted. -/
def Statement.IsSorted : Statement → Prop
  | .entry _ v => v.IsSorted
  | .tableHeader _ => True
  | .elementHeader _ => True

theorem Draft.add_areSorted {d d' : Draft} {x : Statement} (hx : x.IsSorted) (hd : AreSorted d.root)
    (h : d.add x = some d') : AreSorted d'.root := by
  cases x with
  | entry key v =>
    obtain ⟨root, hroot, rfl⟩ := Option.map_eq_some_iff.1 h
    exact (keepsSorted_define key hx).alter false d.current .opened d.root root hd hroot
  | tableHeader key =>
    obtain ⟨root, hroot, rfl⟩ := Option.map_eq_some_iff.1 h
    exact openTable_areSorted hd hroot
  | elementHeader key =>
    obtain ⟨root, hroot, rfl⟩ := Option.map_eq_some_iff.1 h
    exact openElement_areSorted hd hroot

theorem table?_isSorted {statements : List Statement} {table : Entries}
    (hstatements : ∀ x ∈ statements, x.IsSorted) (h : table? statements = some table) :
    (Value.table table).IsSorted := by
  obtain ⟨d, hd, rfl⟩ := Option.map_eq_some_iff.1 h
  refine AreSorted.finish (foldlM_keeps (P := fun d => AreSorted d.root) ?_ areSorted_nil hd)
  exact fun s x hx s' hs hadd => Draft.add_areSorted (hstatements x hx) hs hadd

/-! ## What is read is sorted -/

/-- Whatever is read has a property. -/
def Reader.Gives {α : Type} (item : Reader α) (P : α → Prop) : Prop :=
  ∀ s a rest, item.read s = some (a, rest) → P a

theorem Reader.Gives.items? {α : Type} {item : Reader α} {P : α → Prop} (h : item.Gives P)
    {close : Char} {s rest : List Char} {as : List α} (hread : items? item close s = some (as, rest)) :
    ∀ a ∈ as, P a := by
  fun_induction Toml.items? item close s generalizing as rest with
  | case1 | case3 | case4 | case7 => cases hread
  | case2 =>
    cases hread
    simp
  | case5 _ _ _ _ _ _ _ hitem =>
    cases hread
    simpa using h _ _ _ hitem
  | case6 _ _ _ _ _ _ _ hitem _ _ _ ih =>
    obtain ⟨⟨later, rest'⟩, hlater, heq⟩ := Option.map_eq_some_iff.1 hread
    cases heq
    exact List.forall_mem_cons.2 ⟨h _ _ _ hitem, ih hlater⟩

theorem Reader.Gives.keyValue? {value : Reader Value} {P : Value → Prop} (h : value.Gives P) (gap : Gap) :
    Reader.Gives ⟨Toml.keyValue? gap value, keyValue?_length⟩ fun entry => P entry.2 := by
  intro s entry rest hread
  change Toml.keyValue? gap value s = some (entry, rest) at hread
  unfold Toml.keyValue? at hread
  split at hread
  · split at hread
    · obtain ⟨⟨v, rest'⟩, hv, heq⟩ := Option.map_eq_some_iff.1 hread
      cases heq
      exact h _ _ _ hv
    · cases hread
  · cases hread

theorem number?_isSorted {s : List Char} {v : Value} (h : number? s = some v) : v.IsSorted := by
  have hbased : ∀ base isDigit t, basedInteger? base isDigit t = some v → v.IsSorted := by
    intro base isDigit t hbased
    obtain ⟨digits, -, hdigits⟩ := Option.bind_eq_some_iff.1 hbased
    split_ifs at hdigits <;> cases hdigits <;> constructor
  have hdecimal : ∀ t, decimalInteger? t = some v → v.IsSorted := by
    intro t hdecimal
    simp only [decimalInteger?, Option.ite_none_left_eq_some] at hdecimal
    obtain ⟨digits, -, rfl⟩ := Option.map_eq_some_iff.1 hdecimal.2.2
    split <;> constructor
  rcases Option.or_eq_some_iff.1 h with hinteger | ⟨-, hreal⟩
  · unfold integer? at hinteger
    split at hinteger
    · exact hbased _ _ _ hinteger
    · exact hbased _ _ _ hinteger
    · exact hbased _ _ _ hinteger
    · exact hdecimal _ hinteger
  · obtain ⟨x, -, rfl⟩ := Option.map_eq_some_iff.1 hreal
    exact .real x

theorem simpleValue?_isSorted {s rest : List Char} {v : Value} (h : simpleValue? s = some (v, rest)) :
    v.IsSorted := by
  unfold simpleValue? at h
  split at h
  · cases h
    exact .string _
  · simp only [atom?, Option.ite_none_left_eq_some] at h
    obtain ⟨w, hatom, heq⟩ := Option.map_eq_some_iff.1 h.2
    cases heq
    unfold atomValue? at hatom
    split_ifs at hatom
    · cases hatom
      exact .boolean true
    · cases hatom
      exact .boolean false
    · cases hatom
      exact .dateTime _
    · exact number?_isSorted hatom

theorem value_givesSorted (depth : Nat) : (value depth).Gives Value.IsSorted := by
  induction depth with
  | zero => exact fun s v rest h => simpleValue?_isSorted h
  | succ depth ih =>
    intro s v rest h
    change nested? (value depth) s = some (v, rest) at h
    unfold nested? at h
    split at h
    · obtain ⟨⟨elements, rest'⟩, helements, heq⟩ := Option.map_eq_some_iff.1 h
      cases heq
      exact .array (ih.items? helements)
    · obtain ⟨⟨entries, rest'⟩, hentries, hinline⟩ := Option.bind_eq_some_iff.1 h
      obtain ⟨w, hw, heq⟩ := Option.map_eq_some_iff.1 hinline
      cases heq
      exact inlineTable?_isSorted ((ih.keyValue? Gap.lines).items? hentries) hw
    · exact simpleValue?_isSorted h

theorem statement?_isSorted {s rest : List Char} {x : Statement} (h : statement? s = some (x, rest)) :
    x.IsSorted := by
  unfold statement? at h
  split at h
  · unfold header? at h
    repeat' split at h
    all_goals cases h
    all_goals trivial
  · obtain ⟨⟨⟨key, v⟩, rest'⟩, hentry, heq⟩ := Option.map_eq_some_iff.1 h
    cases heq
    exact (value_givesSorted depthLimit).keyValue? Gap.blanks s (key, v) _ hentry

theorem statements?_isSorted {s : List Char} {statements : List Statement}
    (h : statements? s = some statements) : ∀ x ∈ statements, x.IsSorted := by
  fun_induction statements? s generalizing statements with
  | case1 =>
    cases h
    simp
  | case2 | case3 => cases h
  | case4 _ _ _ _ x _ hx _ _ ih =>
    obtain ⟨later, hlater, rfl⟩ := Option.map_eq_some_iff.1 h
    exact List.forall_mem_cons.2 ⟨statement?_isSorted hx, ih hlater⟩

theorem document?_isSorted {text : List Char} {table : Entries} (h : document? text = some table) :
    (Value.table table).IsSorted := by
  obtain ⟨statements, hstatements, htable⟩ := Option.bind_eq_some_iff.1 h
  exact table?_isSorted (statements?_isSorted hstatements) htable

end Provisioning.Toml
