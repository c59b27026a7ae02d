import Mathlib.Data.List.Nodup
import Provisioning.Proofs.Toml.Sorted

/-! # Tables from listed entries

A table is listed by its entries in any order; an entry whose value is a table may stand as one dotted entry
for each of its own. Entries with different keys can be added in either order, so that every list of a table
makes that table. -/
namespace Provisioning.Toml

/-! ## Lists of entries -/

/-- The ways to write an entry of a table: as it is, or, if its value is a table with entries, by dotted keys
for those. -/
inductive Unfolds : String × Value → List (Key × Value) → Prop
  | whole (key : String) (v : Value) : Unfolds (key, v) [(⟨[], key⟩, v)]
  | dotted (key : String) {inner : Entries} (hne : inner ≠ []) :
    Unfolds (key, .table inner) (inner.map fun entry => (⟨[key], entry.1⟩, entry.2))

/-- The lists of entries that a table may be written as: each of its entries in some way, and all of that in
any order. -/
def Lists (table : Entries) (written : List (Key × Value)) : Prop :=
  ∃ parts, List.Forall₂ Unfolds table parts ∧ written.Perm parts.flatten

theorem Unfolds.isSorted {entry : String × Value} {part : List (Key × Value)} (h : Unfolds entry part)
    (hentry : entry.2.IsSorted) : ∀ written ∈ part, written.2.IsSorted := by
  cases h with
  | whole => simpa using hentry
  | dotted =>
    cases hentry with
    | table _ hinner => exact List.forall_mem_map.2 hinner

theorem exists_unfolds {table : Entries} {parts : List (List (Key × Value))}
    (hparts : List.Forall₂ Unfolds table parts) {x : Key × Value} (hx : x ∈ parts.flatten) :
    ∃ entry ∈ table, ∃ part, Unfolds entry part ∧ x ∈ part := by
  obtain ⟨part, hpart, hmem⟩ := List.mem_flatten.1 hx
  obtain ⟨i, hi, rfl⟩ := List.getElem_of_mem hpart
  have hlength := hparts.length_eq
  exact ⟨_, List.getElem_mem (by omega), _, hparts.get (by omega) hi, hmem⟩

theorem Lists.isSorted {table : Entries} {written : List (Key × Value)} (h : Lists table written)
    (hentries : ∀ entry ∈ table, entry.2.IsSorted) : ∀ entry ∈ written, entry.2.IsSorted := by
  obtain ⟨parts, hparts, hperm⟩ := h
  intro x hx
  obtain ⟨entry, hentry, part, hpart, hmem⟩ := exists_unfolds hparts (hperm.mem_iff.1 hx)
  exact hpart.isSorted (hentries entry hentry) x hmem

/-! ## Adding an entry -/

/-- A table after one more entry. -/
def enter (nodes : Nodes) (entry : Key × Value) : Option Nodes :=
  define entry.1 entry.2 .opened nodes

theorem inlineTable?_eq (entries : List (Key × Value)) :
    inlineTable? entries = (entries.foldlM enter []).map fun nodes => .table (finish nodes) :=
  rfl

/-- The entries of a table that dotted keys may extend, or may still make. -/
def dottedEntries? : Option Node → Option Nodes
  | none => some []
  | some (.table .dotted inner) => some inner
  | _ => none

theorem enter_whole (nodes : Nodes) (key : String) (v : Value) :
    enter nodes (⟨[], key⟩, v) =
      if (nodes.lookup key).isSome then none else some (put key (.value v) nodes) :=
  rfl

theorem enter_dotted (nodes : Nodes) (key inner : String) (v : Value) :
    enter nodes (⟨[key], inner⟩, v) =
      (dottedEntries? (nodes.lookup key)).bind fun entries =>
        if (entries.lookup inner).isSome then none
        else some (put key (.table .dotted (put inner (.value v) entries)) nodes) := by
  unfold enter define
  rw [alter]
  cases hlookup : nodes.lookup key with
  | none => rfl
  | some node =>
    cases node with
    | value | tables => rfl
    | table kind entries =>
      cases kind with
      | opened | implied => rfl
      | dotted =>
        simp only [dottedEntries?, alter, Option.bind_some]
        cases entries.lookup inner <;> rfl

theorem enter_comm_whole {key other : String} (hne : key ≠ other) (nodes : Nodes) (v w : Value) :
    (enter nodes (⟨[], key⟩, v)).bind (enter · (⟨[], other⟩, w)) =
      (enter nodes (⟨[], other⟩, w)).bind (enter · (⟨[], key⟩, v)) := by
  simp only [enter_whole]
  cases h : nodes.lookup key <;> cases h' : nodes.lookup other <;>
    simp [h, h', lookup_put_of_ne, hne, hne.symm, put_comm hne]

theorem enter_comm_dotted (key other inner : String) (nodes : Nodes) (v w : Value) :
    (enter nodes (⟨[], key⟩, v)).bind (enter · (⟨[other], inner⟩, w)) =
      (enter nodes (⟨[other], inner⟩, w)).bind (enter · (⟨[], key⟩, v)) := by
  simp only [enter_whole, enter_dotted]
  by_cases hne : key = other
  · subst hne
    cases h : nodes.lookup key with
    | none => simp [lookup_put, dottedEntries?]
    | some node =>
      cases hentries : dottedEntries? (some node) with
      | none => simp
      | some entries =>
        cases hinner : entries.lookup inner <;> simp [hinner, lookup_put]
  · cases h : nodes.lookup key <;> cases hentries : dottedEntries? (nodes.lookup other) with
    | none => simp [hentries, lookup_put_of_ne, Ne.symm hne]
    | some entries =>
      cases hinner : entries.lookup inner <;>
        simp [h, hentries, hinner, lookup_put_of_ne, hne, Ne.symm hne, put_comm hne]

theorem enter_comm_dotted_dotted {key other inner inner' : String} (hne : key = other → inner ≠ inner')
    (nodes : Nodes) (v w : Value) :
    (enter nodes (⟨[key], inner⟩, v)).bind (enter · (⟨[other], inner'⟩, w)) =
      (enter nodes (⟨[other], inner'⟩, w)).bind (enter · (⟨[key], inner⟩, v)) := by
  simp only [enter_dotted]
  by_cases hkey : key = other
  · subst hkey
    have hinner := hne rfl
    cases dottedEntries? (nodes.lookup key) with
    | none => rfl
    | some entries =>
      cases h : entries.lookup inner <;> cases h' : entries.lookup inner' <;>
        simp [h, h', lookup_put, dottedEntries?, lookup_put_of_ne, hinner, hinner.symm, put_put,
          put_comm hinner]
  · cases h : dottedEntries? (nodes.lookup key) <;> cases h' : dottedEntries? (nodes.lookup other)
    · rfl
    · next entries =>
      cases hinner : entries.lookup inner' <;> simp [h, hinner, lookup_put_of_ne, hkey]
    · next entries =>
      cases hinner : entries.lookup inner <;> simp [h', hinner, lookup_put_of_ne, Ne.symm hkey]
    · next entries entries' =>
      cases hinner : entries.lookup inner <;> cases hinner' : entries'.lookup inner' <;>
        simp [h, h', hinner, hinner', lookup_put_of_ne, hkey, Ne.symm hkey, put_comm hkey]

/-- Entries with different keys are added in either order, and refused in both if in one. -/
theorem enter_comm {x y : Key × Value} (hx : x.1.path.length ≤ 1) (hy : y.1.path.length ≤ 1)
    (hne : x.1 ≠ y.1) (nodes : Nodes) :
    (enter nodes x).bind (enter · y) = (enter nodes y).bind (enter · x) := by
  rcases x with ⟨⟨path, key⟩, v⟩
  rcases y with ⟨⟨path', key'⟩, w⟩
  match path, path' with
  | [], [] => exact enter_comm_whole (fun heq => hne (by rw [heq])) nodes v w
  | [], [other] => exact enter_comm_dotted key other key' nodes v w
  | [other], [] => exact (enter_comm_dotted key' other key nodes w v).symm
  | [outer], [outer'] => exact enter_comm_dotted_dotted (fun heq hinner => hne (by rw [heq, hinner])) nodes v w
  | _ :: _ :: _, _ => simp at hx
  | _, _ :: _ :: _ => simp at hy

/-! ## Any order makes the same table -/

/-- Steps that commute lead to the same state in any order. -/
theorem foldlM_perm {σ α : Type} {step : σ → α → Option σ} {items items' : List α}
    (hperm : items.Perm items')
    (hcomm : ∀ x ∈ items, ∀ y ∈ items, ∀ s, (step s x).bind (step · y) = (step s y).bind (step · x)) (s : σ) :
    items.foldlM step s = items'.foldlM step s := by
  induction hperm generalizing s with
  | nil => rfl
  | cons x _ ih =>
    simp only [List.foldlM_cons]
    refine bind_congr fun s' => ih (fun y hy z hz => ?_) s'
    exact hcomm y (List.mem_cons_of_mem _ hy) z (List.mem_cons_of_mem _ hz)
  | swap x y rest =>
    simp only [List.foldlM_cons, ← bind_assoc]
    exact congrArg (· >>= rest.foldlM step) (hcomm y (by simp) x (by simp) s)
  | trans hfirst _ ih ih' =>
    rw [ih hcomm, ih' fun x hx y hy => hcomm x (hfirst.mem_iff.2 hx) y (hfirst.mem_iff.2 hy)]

/-- The key that a dotted key starts with. -/
def Key.first (key : Key) : String :=
  key.path.headD key.last

section Parts
variable {entry : String × Value} {part written : List (Key × Value)} {table : Entries}
  {parts : List (List (Key × Value))}

theorem Unfolds.first (h : Unfolds entry part) : ∀ x ∈ part, x.1.first = entry.1 := by
  cases h with
  | whole => simp [Key.first]
  | dotted => exact List.forall_mem_map.2 fun _ _ => rfl

theorem Unfolds.path_length (h : Unfolds entry part) : ∀ x ∈ part, x.1.path.length ≤ 1 := by
  cases h with
  | whole => simp
  | dotted => exact List.forall_mem_map.2 fun _ _ => Nat.le_refl 1

theorem Unfolds.keys_nodup (h : Unfolds entry part) (hentry : entry.2.IsSorted) :
    (part.map Prod.fst).Nodup := by
  cases h with
  | whole => simp
  | dotted key =>
    cases hentry with
    | table horder _ =>
      rw [List.map_map]
      have hinj : Function.Injective fun inner : String => (⟨[key], inner⟩ : Key) :=
        fun a b hab => congrArg Key.last hab
      simpa [Function.comp_def] using horder.keys_nodup.map hinj

theorem exists_first_mem (hparts : List.Forall₂ Unfolds table parts) {x : Key × Value}
    (hx : x ∈ parts.flatten) : x.1.first ∈ table.map Prod.fst := by
  obtain ⟨entry, hentry, part, hpart, hmem⟩ := exists_unfolds hparts hx
  rw [hpart.first x hmem]
  exact List.mem_map_of_mem hentry

theorem keys_flatten_nodup (hparts : List.Forall₂ Unfolds table parts) (hkeys : (table.map Prod.fst).Nodup)
    (hentries : ∀ entry ∈ table, entry.2.IsSorted) : (parts.flatten.map Prod.fst).Nodup := by
  induction hparts with
  | nil => simp
  | @cons entry part table parts hpart hparts ih =>
    rw [List.map_cons, List.nodup_cons] at hkeys
    rw [List.flatten_cons, List.map_append, List.nodup_append]
    refine ⟨hpart.keys_nodup (hentries _ List.mem_cons_self),
      ih hkeys.2 fun later hlater => hentries later (List.mem_cons_of_mem _ hlater), ?_⟩
    -- A key of the first entry starts with that entry's key, and one of a later entry with a later key.
    rintro key hkey later hlater rfl
    obtain ⟨x, hx, rfl⟩ := List.mem_map.1 hkey
    obtain ⟨y, hy, hxy⟩ := List.mem_map.1 hlater
    have hmem := exists_first_mem hparts hy
    rw [hxy, hpart.first x hx] at hmem
    exact hkeys.1 hmem

/-- Listed entries may as well be added in the order of the table. -/
theorem foldlM_listed (hparts : List.Forall₂ Unfolds table parts) (hperm : written.Perm parts.flatten)
    (hkeys : (table.map Prod.fst).Nodup) (hentries : ∀ entry ∈ table, entry.2.IsSorted) (nodes : Nodes) :
    written.foldlM enter nodes = parts.flatten.foldlM enter nodes := by
  have hpath : ∀ x ∈ parts.flatten, x.1.path.length ≤ 1 := by
    intro x hx
    obtain ⟨entry, -, part, hpart, hmem⟩ := exists_unfolds hparts hx
    exact hpart.path_length x hmem
  refine foldlM_perm hperm (fun x hx y hy nodes => ?_) nodes
  have hx' := hperm.mem_iff.1 hx
  have hy' := hperm.mem_iff.1 hy
  by_cases hkey : x.1 = y.1
  · rw [List.inj_on_of_nodup_map (keys_flatten_nodup hparts hkeys hentries) hx' hy' hkey]
  · exact enter_comm (hpath x hx') (hpath y hy') hkey nodes

end Parts

/-! ## A new entry in all its parts -/

/-- A table with some more entries. -/
def enterAll (entries : Entries) (nodes : Nodes) : Nodes :=
  entries.foldl (fun nodes entry => put entry.1 (.value entry.2) nodes) nodes

theorem enterAll_perm {entries : Entries} {nodes : Nodes}
    (h : (entries.map Prod.fst ++ nodes.map Prod.fst).Nodup) :
    (enterAll entries nodes).Perm (entries.map (fun entry => (entry.1, Node.value entry.2)) ++ nodes) := by
  induction entries generalizing nodes with
  | nil => exact .refl _
  | cons entry rest ih =>
    obtain ⟨hnew, hrest⟩ := nodup_put h (Node.value entry.2)
    exact (ih hrest).trans (((put_perm hnew _).append_left _).trans List.perm_middle)

theorem enterAll_inOrder {entries : Entries} {nodes : Nodes} (h : InOrder nodes) :
    InOrder (enterAll entries nodes) := by
  induction entries generalizing nodes with
  | nil => exact h
  | cons entry rest ih => exact ih (h.put _)

theorem finish_enterAll {entries : Entries} (h : InOrder entries) : finish (enterAll entries []) = entries := by
  have hkeys : (entries.map Prod.fst ++ ([] : Nodes).map Prod.fst).Nodup := by simpa using h.keys_nodup
  have hperm := (enterAll_perm hkeys).map fun entry => (entry.1, entry.2.toValue)
  have horder : InOrder (finish (enterAll entries [])) := by
    rw [finish_eq_map]
    exact (enterAll_inOrder .nil).map
  refine horder.eq_of_perm h ?_
  rw [finish_eq_map]
  simpa [Function.comp_def, Node.toValue] using hperm

/-- Entries with keys of one part each. -/
def undotted (entries : Entries) : List (Key × Value) :=
  entries.map fun entry => (⟨[], entry.1⟩, entry.2)

theorem foldlM_undotted {entries : Entries} {nodes : Nodes}
    (hkeys : (entries.map Prod.fst ++ nodes.map Prod.fst).Nodup) :
    (undotted entries).foldlM enter nodes = some (enterAll entries nodes) := by
  induction entries generalizing nodes with
  | nil => rfl
  | cons entry rest ih =>
    obtain ⟨hnew, hrest⟩ := nodup_put hkeys (Node.value entry.2)
    rw [undotted, List.map_cons, List.foldlM_cons, enter_whole, lookup_eq_none hnew]
    exact ih hrest

/-- Dotted keys add to the table that the first of them makes. -/
theorem foldlM_dotted {key : String} {entries : Entries} {inner nodes : Nodes}
    (hkeys : (entries.map Prod.fst ++ inner.map Prod.fst).Nodup) :
    (entries.map fun entry => ((⟨[key], entry.1⟩ : Key), entry.2)).foldlM enter
        (put key (.table .dotted inner) nodes) =
      some (put key (.table .dotted (enterAll entries inner)) nodes) := by
  induction entries generalizing inner with
  | nil => rfl
  | cons entry rest ih =>
    obtain ⟨hnew, hrest⟩ := nodup_put hkeys (Node.value entry.2)
    rw [List.map_cons, List.foldlM_cons, enter_dotted, lookup_put]
    simp only [dottedEntries?, Option.bind_some, lookup_eq_none hnew, put_put]
    exact ih hrest

theorem Unfolds.foldlM_eq {key : String} {v : Value} {part : List (Key × Value)} (h : Unfolds (key, v) part)
    (hv : v.IsSorted) {nodes : Nodes} (hnew : key ∉ nodes.map Prod.fst) :
    ∃ node, part.foldlM enter nodes = some (put key node nodes) ∧ node.toValue = v := by
  cases h with
  | whole =>
    refine ⟨.value v, ?_, by rw [Node.toValue]⟩
    rw [List.foldlM_cons, enter_whole, lookup_eq_none hnew]
    rfl
  | @dotted _ inner hne =>
    cases hv with
    | table horder _ =>
      refine ⟨.table .dotted (enterAll inner []), ?_, by rw [Node.toValue, finish_enterAll horder]⟩
      obtain ⟨first, rest, rfl⟩ := List.exists_cons_of_ne_nil hne
      have hkeys : ((first :: rest).map Prod.fst ++ ([] : Nodes).map Prod.fst).Nodup := by
        simpa using horder.keys_nodup
      rw [List.map_cons, List.foldlM_cons, enter_dotted, lookup_eq_none hnew]
      exact foldlM_dotted (nodup_put hkeys (Node.value first.2)).2

/-- Parts of new entries, one after the other, put their values under their keys. -/
theorem foldlM_parts {table : Entries} {parts : List (List (Key × Value))}
    (hparts : List.Forall₂ Unfolds table parts) (hentries : ∀ entry ∈ table, entry.2.IsSorted) {nodes : Nodes}
    (hkeys : (table.map Prod.fst ++ nodes.map Prod.fst).Nodup) :
    ∃ nodes', parts.flatten.foldlM enter nodes = some nodes' ∧
      (finish nodes').Perm (table ++ finish nodes) := by
  induction hparts generalizing nodes with
  | nil => exact ⟨nodes, rfl, .refl _⟩
  | @cons entry part table parts hpart hparts ih =>
    obtain ⟨node, hfirst, hvalue⟩ := hpart.foldlM_eq (hentries _ List.mem_cons_self)
      (nodup_put hkeys (Node.value entry.2)).1
    obtain ⟨hnew, hrest⟩ := nodup_put hkeys node
    obtain ⟨nodes', hlater, hperm⟩ := ih
      (fun later hlater => hentries later (List.mem_cons_of_mem _ hlater)) hrest
    refine ⟨nodes', by rw [List.flatten_cons, List.foldlM_append, hfirst]; exact hlater, ?_⟩
    have hput := finish_put_perm hnew node
    rw [hvalue] at hput
    exact hperm.trans ((hput.append_left _).trans List.perm_middle)

theorem Lists.foldlM_eq {table : Entries} {written : List (Key × Value)} (h : Lists table written)
    (hkeys : (table.map Prod.fst).Nodup) (hentries : ∀ entry ∈ table, entry.2.IsSorted) :
    ∃ nodes, written.foldlM enter [] = some nodes ∧ (finish nodes).Perm table := by
  obtain ⟨parts, hparts, hperm⟩ := h
  obtain ⟨nodes, hnodes, htable⟩ := foldlM_parts hparts hentries
    (show (table.map Prod.fst ++ ([] : Nodes).map Prod.fst).Nodup by simpa using hkeys)
  refine ⟨nodes, (foldlM_listed hparts hperm hkeys hentries []).trans hnodes, ?_⟩
  simpa [finish] using htable

/-- However the entries of a table are listed, they make that table. -/
theorem Lists.exists_finish_eq {table : Entries} {written : List (Key × Value)} (h : Lists table written)
    (htable : (Value.table table).IsSorted) :
    ∃ nodes, written.foldlM enter [] = some nodes ∧ finish nodes = table := by
  cases htable with
  | table horder hentries =>
    obtain ⟨nodes, hnodes, hperm⟩ := h.foldlM_eq horder.keys_nodup hentries
    have hvalue : inlineTable? written = some (.table (finish nodes)) := by
      rw [inlineTable?_eq, hnodes]
      rfl
    cases inlineTable?_isSorted (h.isSorted hentries) hvalue with
    | table hfinish _ => exact ⟨nodes, hnodes, hfinish.eq_of_perm horder hperm⟩

end Provisioning.Toml
