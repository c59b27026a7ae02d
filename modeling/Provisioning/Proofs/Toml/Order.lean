import Mathlib.Data.List.Perm.Basic
import Provisioning.Toml.Table

/-! # Entries in the order of their keys

Entries are put at their place one by one. A new key only moves the others, a key that is there is replaced,
and entries that are in order stay so; two lists in order with the same entries are the same. -/
namespace Provisioning.Toml

section Put
variable {α β : Type} {key : String}

theorem lookup_eq_none {entries : List (String × α)} (h : key ∉ entries.map Prod.fst) :
    entries.lookup key = none := by
  rw [List.lookup_eq_none_iff]
  intro entry hentry
  simpa using fun heq : key = entry.1 => h (heq ▸ List.mem_map_of_mem hentry)

/-- A new key changes nothing but the place of the others. -/
theorem put_perm {entries : List (String × α)} (h : key ∉ entries.map Prod.fst) (a : α) :
    (put key a entries).Perm ((key, a) :: entries) := by
  induction entries with
  | nil => exact .refl _
  | cons entry rest ih =>
    rw [List.map_cons, List.mem_cons, not_or] at h
    rw [put]
    split
    · exact .refl _
    · rw [if_neg h.1]
      exact ((ih h.2).cons entry).trans (.swap _ _ _)

theorem lookup_put (a : α) (entries : List (String × α)) :
    (put key a entries).lookup key = some a := by
  induction entries with
  | nil => simp [put]
  | cons entry rest ih =>
    rw [put]
    split
    · simp
    · split
      · simp
      · next hne => rw [List.lookup_cons, beq_false_of_ne hne, ih]

/-- The last entry of a key counts. -/
theorem put_put (a b : α) (entries : List (String × α)) :
    put key b (put key a entries) = put key b entries := by
  induction entries with
  | nil => simp [put]
  | cons entry rest ih =>
    rcases entry with ⟨other, c⟩
    by_cases hlt : key < other
    · simp [put, hlt]
    · by_cases heq : key = other
      · simp [put, heq]
      · simp [put, hlt, heq, ih]

theorem not_mem_of_lookup {entries : List (String × α)} (h : entries.lookup key = none) :
    key ∉ entries.map Prod.fst := by
  intro hmem
  obtain ⟨entry, hentry, rfl⟩ := List.mem_map.1 hmem
  simpa using List.lookup_eq_none_iff.1 h entry hentry

theorem lookup_of_mem {a : α} {entries : List (String × α)} (hkeys : (entries.map Prod.fst).Nodup)
    (h : (key, a) ∈ entries) : entries.lookup key = some a := by
  induction entries with
  | nil => cases h
  | cons first rest ih => grind

/-- Two keys are put in either order. -/
theorem put_comm {other : String} (hne : key ≠ other) (a b : α) (entries : List (String × α)) :
    put other b (put key a entries) = put key a (put other b entries) := by
  induction entries with
  | nil => grind [put]
  | cons first rest ih => grind [put]

theorem lookup_put_of_ne {other : String} (hne : other ≠ key) (a : α) (entries : List (String × α)) :
    (put key a entries).lookup other = entries.lookup other := by
  induction entries with
  | nil => grind [put]
  | cons first rest ih => grind [put]

theorem mem_of_lookup {a : α} {entries : List (String × α)} (h : entries.lookup key = some a) : (key, a) ∈ entries := by
  induction entries with
  | nil => cases h
  | cons first rest ih => grind

/-- Keys that are all new stay so while the first of them is put in. -/
theorem nodup_put {α β : Type} {entry : String × β} {rest : List (String × β)}
    {nodes : List (String × α)}
    (h : ((entry :: rest).map Prod.fst ++ nodes.map Prod.fst).Nodup) (a : α) :
    entry.1 ∉ nodes.map Prod.fst ∧
      (rest.map Prod.fst ++ (put entry.1 a nodes).map Prod.fst).Nodup := by
  have hnew : entry.1 ∉ nodes.map Prod.fst :=
    fun hmem => (List.nodup_cons.1 h).1 (List.mem_append_right _ hmem)
  have hkeys : (rest.map Prod.fst ++ (put entry.1 a nodes).map Prod.fst).Perm
      ((entry :: rest).map Prod.fst ++ nodes.map Prod.fst) :=
    (((put_perm hnew a).map Prod.fst).append_left _).trans List.perm_middle
  exact ⟨hnew, hkeys.nodup_iff.2 h⟩

end Put

/-! ## Order -/

section InOrder
variable {α β : Type} {key : String} {entries entries' : List (String × α)}

/-- Entries in the order of their keys, of which none stands twice. -/
def InOrder (entries : List (String × α)) : Prop :=
  entries.Pairwise fun entry later => entry.1 < later.1

instance (entries : List (String × α)) : Decidable (InOrder entries) :=
  inferInstanceAs (Decidable (entries.Pairwise fun entry later => entry.1 < later.1))

theorem InOrder.keys_nodup (h : InOrder entries) : (entries.map Prod.fst).Nodup :=
  List.Pairwise.map Prod.fst (fun _ _ hlt heq => String.lt_irrefl _ (heq ▸ hlt)) h

theorem InOrder.eq_of_perm (h : InOrder entries) (h' : InOrder entries') (hperm : entries.Perm entries') :
    entries = entries' :=
  List.Perm.eq_of_pairwise (fun _ _ _ _ hlt hgt => absurd hgt (String.lt_asymm hlt)) h h' hperm

theorem InOrder.map {f : α → β} (h : InOrder entries) :
    InOrder (entries.map fun entry => (entry.1, f entry.2)) :=
  List.Pairwise.map _ (fun _ _ hlt => hlt) h

theorem mem_put {a : α} {entry : String × α} (h : entry ∈ put key a entries) :
    entry = (key, a) ∨ entry ∈ entries := by
  induction entries with
  | nil => exact .inl (by simpa [put] using h)
  | cons first rest ih => grind [put]

theorem InOrder.put (h : InOrder entries) (a : α) : InOrder (put key a entries) := by
  induction entries with
  | nil => simp [InOrder, Toml.put]
  | cons first rest ih =>
    obtain ⟨hfirst, hrest⟩ := List.pairwise_cons.1 h
    rw [Toml.put]
    split
    · next hlt =>
      refine List.pairwise_cons.2 ⟨?_, h⟩
      simp only [List.forall_mem_cons]
      exact ⟨hlt, fun later hlater => String.lt_trans hlt (hfirst later hlater)⟩
    · split
      · next heq =>
        subst heq
        exact List.pairwise_cons.2 ⟨hfirst, hrest⟩
      · next hnot hne =>
        refine List.pairwise_cons.2 ⟨fun later hlater => ?_, ih hrest⟩
        rcases mem_put hlater with rfl | hlater
        · grind
        · exact hfirst later hlater

end InOrder

/-! ## Finished tables -/

theorem finish_eq_map (nodes : Nodes) :
    finish nodes = nodes.map fun entry => (entry.1, entry.2.toValue) := by
  induction nodes with
  | nil => simp [finish]
  | cons entry rest ih =>
    rcases entry with ⟨key, node⟩
    simp [finish, ih]

theorem finishAll_eq_map (tables : List Nodes) :
    finishAll tables = tables.map fun nodes => .table (finish nodes) := by
  induction tables with
  | nil => simp [finishAll]
  | cons nodes rest ih => simp [finishAll, ih]

theorem keys_finish (nodes : Nodes) : (finish nodes).map Prod.fst = nodes.map Prod.fst := by
  rw [finish_eq_map, List.map_map]
  rfl

theorem finish_put_perm {key : String} {nodes : Nodes} (hnew : key ∉ nodes.map Prod.fst) (node : Node) :
    (finish (put key node nodes)).Perm ((key, node.toValue) :: finish nodes) := by
  simp only [finish_eq_map]
  exact (put_perm hnew node).map _

end Provisioning.Toml
