import Provisioning.Proofs.Except
import Provisioning.SearchPath

/-! # Where paths lead

A name at the end of a path leads one step further than the path itself. So a relative path that is put
behind the path of a directory leads from the root to where it leads from that directory, but for the limit
on how long a path may be. -/
namespace Provisioning

namespace Path

theorem slash_not_mem_of_mem_splitOn {octets name : List UInt8} (h : name ∈ octets.splitOn slash) :
    slash ∉ name := by
  induction octets generalizing name with
  | nil =>
    obtain rfl := List.mem_singleton.1 h
    exact List.not_mem_nil
  | cons o rest ih =>
    rw [List.splitOn_cons_eq_if_modifyHead] at h
    split at h
    · rcases List.mem_cons.1 h with rfl | hin
      · exact List.not_mem_nil
      · exact ih hin
    · next ho =>
      obtain ⟨first, others, hsplit⟩ := List.exists_cons_of_ne_nil (List.splitOn_ne_nil slash rest)
      rw [hsplit, List.modifyHead_cons] at h
      rcases List.mem_cons.1 h with rfl | hin
      · have hfirst : slash ∉ first := ih (hsplit ▸ List.mem_cons_self)
        rw [List.mem_cons]
        rintro (rfl | hin)
        · exact ho (beq_self_eq_true _)
        · exact hfirst hin
      · exact ih (hsplit ▸ List.mem_cons_of_mem _ hin)

theorem slash_not_mem_of_mem_steps {p : Path} {name : List UInt8} (h : name ∈ p.steps) :
    slash ∉ name :=
  slash_not_mem_of_mem_splitOn (List.mem_filter.1 h).1

/-- A name that is pushed stands behind the others, or in place of an empty last one. -/
theorem names_push (p : Path) {name : List UInt8} (h : slash ∉ name) :
    ∃ front, (p.names = front ∨ p.names = front ++ [[]]) ∧ (p.push name).names = front ++ [name] := by
  have hname : name.splitOn slash = [name] := List.splitOn_eq_singleton h
  have hbehind (front : List UInt8) :
      (front ++ slash :: name).splitOn slash = front.splitOn slash ++ [name] := by
    rw [List.splitOn_append_cons_self, hname]
  unfold push
  split
  · next hends =>
    rcases Bool.or_eq_true_iff.1 hends with hempty | hslash
    · have hnil : p.octets = [] := List.isEmpty_iff.1 hempty
      exact ⟨[], .inr (by rw [names, hnil]; rfl), by rw [names, hnil]; exact hname⟩
    · obtain ⟨front, hfront⟩ := List.getLast?_eq_some_iff.1 (beq_iff_eq.1 hslash)
      refine ⟨front.splitOn slash, .inr ?_, ?_⟩
      · rw [names, hfront, List.splitOn_append_cons_self]
        rfl
      · rw [names, hfront, List.append_assoc]
        exact hbehind front
  · exact ⟨p.names, .inl rfl, hbehind p.octets⟩

theorem push_octets_length_le (p : Path) (name : List UInt8) :
    p.octets.length ≤ (p.push name).octets.length := by
  unfold push
  split <;> simp

theorem push_octets_ne_nil (p : Path) {name : List UInt8} (h : isStep name = true) :
    (p.push name).octets ≠ [] := by
  have hname : name ≠ [] := by
    rintro rfl
    cases h
  unfold push
  split <;> simp [hname]

theorem isAbsolute_push {p : Path} (h : p.isAbsolute = true) (name : List UInt8) :
    (p.push name).isAbsolute = true := by
  obtain ⟨rest, hrest⟩ := List.head?_eq_some_iff.1 (beq_iff_eq.1 h)
  unfold push
  split <;> simp [isAbsolute, hrest]

theorem isAbsolute_foldl_push {p : Path} (h : p.isAbsolute = true) (names : List (List UInt8)) :
    (names.foldl push p).isAbsolute = true := by
  induction names generalizing p with
  | nil => exact h
  | cons name rest ih => exact ih (isAbsolute_push h name)

end Path

theorem Location.isAbsolute_path (l : Location) : l.path.isAbsolute = true := by
  unfold Location.path
  split
  · rfl
  · next h =>
    obtain ⟨name, rest, rfl⟩ := List.exists_cons_of_ne_nil (mt List.isEmpty_iff.2 h)
    rfl

namespace FileTree

variable {t : FileTree} {start here next : Location}

/-- Where there is no directory, no name leads anywhere, whatever it is. -/
theorem step_of_not_directory (h : t.isDirectoryAt here = false) (name other : List UInt8) :
    t.step here name = t.step here other := by
  unfold step
  unfold isDirectoryAt at h
  split <;> simp_all

theorem step_of_not_isStep {name : List UInt8} (h : Path.isStep name = false)
    (hhere : t.isDirectoryAt here = true) : t.step here name = .ok here := by
  have hfind : t.find? here = some .directory := beq_iff_eq.1 hhere
  have hname : (name.isEmpty || name == Path.dot) = true := by
    cases hempty : name.isEmpty <;> simp_all [Path.isStep]
  simp only [step, hfind, hname, if_true]

theorem walk_append (t : FileTree) (start : Location) (names more : List (List UInt8)) :
    t.walk start (names ++ more) = t.walk start names >>= fun l => t.walk l more :=
  List.foldlM_append

theorem walk_singleton (t : FileTree) (start : Location) (name : List UInt8) :
    t.walk start [name] = t.step start name := by
  simp [walk]

/-- A name that is pushed leads one step further. -/
theorem walk_push (t : FileTree) (start : Location) (p : Path) {name : List UInt8}
    (h : Path.slash ∉ name) :
    t.walk start (p.push name).names = t.walk start p.names >>= fun l => t.step l name := by
  obtain ⟨front, hnames, hpush⟩ := p.names_push h
  rw [hpush, walk_append]
  rcases hnames with hnames | hnames
  · simp only [hnames, walk_singleton]
  · rw [hnames, walk_append]
    cases t.walk start front with
    | error e => rfl
    | ok l =>
      -- The empty last name leads nowhere else, and no further than any other where there is no directory.
      change t.walk l [name] = t.walk l [[]] >>= fun l => t.step l name
      rw [walk_singleton, walk_singleton]
      cases hl : t.isDirectoryAt l with
      | true =>
        have hempty : t.step l [] = .ok l := step_of_not_isStep rfl hl
        rw [hempty]
        rfl
      | false =>
        rw [step_of_not_directory hl name []]
        cases hstep : t.step l [] with
        | error e => rfl
        | ok next =>
          rw [step_eq_ok hstep] at hl
          cases hl

theorem walk_foldl_push (t : FileTree) (start : Location) (p : Path) {names : List (List UInt8)}
    (h : ∀ name ∈ names, Path.slash ∉ name) :
    t.walk start (names.foldl Path.push p).names =
      t.walk start p.names >>= fun l => t.walk l names := by
  induction names generalizing p with
  | nil => exact (bind_pure (t.walk start p.names)).symm
  | cons name rest ih =>
    rw [List.forall_mem_cons] at h
    rw [List.foldl_cons, ih _ h.2, walk_push t start p h.1, bind_assoc]
    simp only [walk, List.foldlM_cons]

/-- Names that lead nowhere may be left out, as long as one that leads somewhere comes last. -/
theorem walk_of_steps {names : List (List UInt8)} {last : List UInt8} (hlast : Path.isStep last = true)
    (h : t.walk start ((names ++ [last]).filter Path.isStep) = .ok next) :
    t.walk start (names ++ [last]) = .ok next := by
  induction names generalizing start with
  | nil => simpa [hlast] using h
  | cons name rest ih =>
    rw [List.cons_append, List.filter_cons] at h
    rw [List.cons_append, walk, List.foldlM_cons, bind_eq_ok]
    split at h
    · rw [walk, List.foldlM_cons, bind_eq_ok] at h
      obtain ⟨l, hl, hrest⟩ := h
      exact ⟨l, hl, ih hrest⟩
    · next hname =>
      have hstart : t.isDirectoryAt start = true := by
        obtain ⟨first, others, hfilter⟩ := List.exists_cons_of_ne_nil
          (List.ne_nil_of_mem (List.mem_filter.2 ⟨List.mem_concat_self, hlast⟩ :
            last ∈ (rest ++ [last]).filter Path.isStep))
        rw [hfilter, walk, List.foldlM_cons, bind_eq_ok] at h
        obtain ⟨l, hl, -⟩ := h
        exact step_eq_ok hl
      exact ⟨start, step_of_not_isStep (by simpa using hname) hstart, ih h⟩

theorem resolve_eq_ok_iff (t : FileTree) (directory : Location) (p : Path) :
    t.resolve directory p = .ok next ↔ (0 ∉ p.octets ∧ p.octets ≠ [] ∧
      p.octets.length < pathLimit) ∧ t.walk (base directory p) p.names = .ok next := by
  unfold resolve
  by_cases hnul : (0 : UInt8) ∈ p.octets
  · simp [hnul]
  · by_cases hempty : p.octets = []
    · simp [hempty]
    · by_cases hlong : pathLimit ≤ p.octets.length
      · simp [hnul, hempty, hlong, Nat.not_lt.2 hlong]
      · simp [hnul, hempty, hlong, Nat.not_le.1 hlong]

theorem isProgram_eq_true_iff (t : FileTree) (directory : Location) (p : Path) :
    t.isProgram directory p = true ↔ ∃ l, t.resolve directory p = .ok l ∧ t.isProgramAt l = true := by
  unfold isProgram
  cases t.resolve directory p <;> simp

theorem isDirectory_eq_true_iff (t : FileTree) (directory : Location) (p : Path) :
    t.isDirectory directory p = true ↔ ∃ l, t.enter directory p = .ok l := by
  unfold isDirectory enter
  cases t.resolve directory p with
  | error e => simp [bind, Except.bind]
  | ok l => cases h : t.isDirectoryAt l <;> simp [h, bind, Except.bind]

/-- Where a path leads that was put behind the path of a directory, there it leads from that directory. -/
theorem walk_of_resolve_seenFrom {directory from' : Location} {p : Path} {name : List UInt8}
    (hplace : t.resolve [] directory.path = .ok directory) (hslash : Path.slash ∉ name)
    (hstep : Path.isStep name = true)
    (h : t.resolve from' (SearchPath.seenFrom directory.path (p.push name)) = .ok next) :
    t.walk (base directory (p.push name)) (p.push name).names = .ok next := by
  have hwalk := ((resolve_eq_ok_iff ..).1 h).2
  unfold SearchPath.seenFrom at hwalk
  split at hwalk
  · next habsolute =>
    rw [base, if_pos habsolute] at hwalk ⊢
    exact hwalk
  · next hrelative =>
    have hroot := Path.isAbsolute_foldl_push directory.isAbsolute_path (p.push name).steps
    obtain ⟨front, -, hnames⟩ := p.names_push hslash
    have hplace := ((resolve_eq_ok_iff ..).1 hplace).2
    rw [base, if_pos directory.isAbsolute_path] at hplace
    rw [base, if_pos hroot, walk_foldl_push _ _ _ fun _ => Path.slash_not_mem_of_mem_steps, hplace] at hwalk
    rw [base, if_neg hrelative, hnames]
    refine walk_of_steps hstep ?_
    rw [← hnames]
    exact hwalk

end FileTree

end Provisioning
