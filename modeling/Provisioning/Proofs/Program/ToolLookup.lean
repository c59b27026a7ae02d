import Provisioning.Proofs.Program.ToolCheck

/-! # What the lookup of tools finds

The lookup takes the required tools one after another, and for each the elements of the search path. A tool
is there as soon as some element holds a program of its name, whatever else the elements before it hold; so
it matters to a success which elements there are, but neither their order nor what else is among them. -/
namespace Provisioning

namespace Path

theorem isAbsolute_push_eq (p : Path) {name : List UInt8} (hslash : slash ∉ name) :
    (p.push name).isAbsolute = p.isAbsolute := by
  cases p with
  | mk octets =>
    cases octets with
    | nil =>
      cases name with
      | nil => rfl
      | cons o rest =>
        have ho : o ≠ slash := fun h => hslash (h ▸ List.mem_cons_self)
        simp [push, isAbsolute, ho]
    | cons o rest => unfold push; split <;> rfl

theorem steps_push (p : Path) {name : List UInt8} (hslash : slash ∉ name) (hstep : isStep name = true) :
    (p.push name).steps = p.steps ++ [name] := by
  have hempty : isStep [] = false := rfl
  obtain ⟨front, hnames, hpush⟩ := p.names_push hslash
  unfold steps
  rw [hpush, List.filter_append, List.filter_singleton, hstep, cond_true]
  rcases hnames with hnames | hnames <;> simp [hnames, hempty]

end Path

namespace SearchPath

variable {home : Option Path} {directory e d : Path} {name : List UInt8}

theorem seenFrom_push (directory p : Path) (hslash : Path.slash ∉ name) (hstep : Path.isStep name = true) :
    seenFrom directory (p.push name) = (seenFrom directory p).push name := by
  unfold seenFrom
  rw [p.isAbsolute_push_eq hslash]
  split
  · rfl
  · rw [p.steps_push hslash hstep, List.foldl_concat]

/-- The directory an element of a search path stands for. An absolute one is that directory itself. One
whose first name is a tilde lies in the home directory, if there is one. Any other, an empty one included,
is seen from the current directory, and so is a home directory that is not absolute. -/
inductive StandsFor (home : Option Path) (directory e : Path) : Path → Prop
  | absolute : e.isAbsolute = true → StandsFor home directory e e
  | home {h : Path} {rest : List (List UInt8)} : home = some h → e.names = tilde :: rest →
      StandsFor home directory e (seenFrom directory ((rest.filter Path.isStep).foldl Path.push h))
  | relative : e.isAbsolute = false → (∀ h rest, home = some h → e.names ≠ tilde :: rest) →
      StandsFor home directory e (e.steps.foldl Path.push directory)

theorem expandHome_of_tilde {h : Path} {rest : List (List UInt8)} (hnames : e.names = tilde :: rest) :
    expandHome (some h) e = (rest.filter Path.isStep).foldl Path.push h := by
  unfold expandHome
  rw [hnames]
  exact if_pos (beq_self_eq_true _)

theorem expandHome_of_not_tilde (hnot : ∀ h rest, home = some h → e.names ≠ tilde :: rest) :
    expandHome home e = e := by
  unfold expandHome
  split
  · next h first rest hnames =>
    refine if_neg fun hfirst => hnot h rest rfl ?_
    rw [hnames, beq_iff_eq.1 hfirst]
  · rfl

theorem standsFor_iff : StandsFor home directory e d ↔ d = seenFrom directory (expandHome home e) := by
  constructor
  · intro h
    cases h with
    | absolute habsolute => rw [expandHome_of_isAbsolute home habsolute, seenFrom, if_pos habsolute]
    | home hhome hnames => rw [hhome, expandHome_of_tilde hnames]
    | relative hrelative hnot =>
      rw [expandHome_of_not_tilde hnot, seenFrom, if_neg (Bool.eq_false_iff.1 hrelative)]
  · rintro rfl
    by_cases htilde : ∃ h rest, home = some h ∧ e.names = tilde :: rest
    · obtain ⟨h, rest, rfl, hnames⟩ := htilde
      rw [expandHome_of_tilde hnames]
      exact .home rfl hnames
    · have hnot : ∀ h rest, home = some h → e.names ≠ tilde :: rest :=
        fun h rest hhome hnames => htilde ⟨h, rest, hhome, hnames⟩
      rw [expandHome_of_not_tilde hnot, seenFrom]
      split
      · next habsolute => exact .absolute habsolute
      · next hrelative => exact .relative (Bool.eq_false_iff.2 hrelative) hnot

end SearchPath

/-! ## Elements that hold a program -/

namespace Surroundings

variable {w : Surroundings} {directory e file : Path} {tool : Tool}

/-- A path leads to a file, which may be executed. -/
def LeadsToProgram (w : Surroundings) (file : Path) : Prop :=
  ∃ l content, w.files.resolve w.directory file = .ok l ∧ w.files.find? l = some (.file content true)

/-- An element of a search path holds a tool in some file. -/
def Holds (w : Surroundings) (directory e : Path) (tool : Tool) (file : Path) : Prop :=
  (∃ d, SearchPath.StandsFor w.home directory e d ∧ file = d.push (Path.ofString tool.name).octets) ∧
    w.LeadsToProgram file

/-- What a path may lead to other than a program. -/
inductive IsUnfit (w : Surroundings) (file : Path) : Prop
  | missing : (∀ l, w.files.resolve w.directory file = .ok l → w.files.find? l = none) → IsUnfit w file
  | directory {l : Location} : w.files.resolve w.directory file = .ok l →
      w.files.find? l = some .directory → IsUnfit w file
  | notExecutable {l : Location} {content : List UInt8} : w.files.resolve w.directory file = .ok l →
      w.files.find? l = some (.file content false) → IsUnfit w file

theorem leadsToProgram_iff : w.LeadsToProgram file ↔ w.files.isProgram w.directory file = true := by
  rw [FileTree.isProgram_eq_true_iff]
  constructor
  · rintro ⟨l, content, hresolve, hfile⟩
    exact ⟨l, hresolve, by rw [FileTree.isProgramAt, hfile]⟩
  · rintro ⟨l, hresolve, hl⟩
    unfold FileTree.isProgramAt at hl
    split at hl
    · next content executable hfile =>
      subst hl
      exact ⟨l, content, hresolve, hfile⟩
    · cases hl

theorem isUnfit_iff : w.IsUnfit file ↔ ¬ w.LeadsToProgram file := by
  constructor
  · rintro hunfit ⟨l, content, hresolve, hfile⟩
    cases hunfit with
    | missing hnone => cases (hnone l hresolve).symm.trans hfile
    | directory hresolve' hdirectory =>
      cases hresolve.symm.trans hresolve'
      cases hfile.symm.trans hdirectory
    | notExecutable hresolve' hlocked =>
      cases hresolve.symm.trans hresolve'
      cases hfile.symm.trans hlocked
  · intro hnot
    cases hresolve : w.files.resolve w.directory file with
    | error cause => exact .missing fun l hl => by cases hresolve.symm.trans hl
    | ok l =>
      cases hfind : w.files.find? l with
      | none =>
        refine .missing fun l' hl' => ?_
        cases hresolve.symm.trans hl'
        exact hfind
      | some entry =>
        cases entry with
        | directory => exact .directory hresolve hfind
        | file content executable =>
          cases executable with
          | false => exact .notExecutable hresolve hfind
          | true => exact absurd ⟨l, content, hresolve, hfind⟩ hnot

theorem holds_iff (htool : tool ∈ Tool.required) : w.Holds directory e tool file ↔
    SearchPath.candidate w.home directory e tool.name = file ∧ w.files.isProgram w.directory file = true := by
  obtain ⟨hslash, hstep⟩ := Tool.name_isStep htool
  simp only [Holds, leadsToProgram_iff, SearchPath.standsFor_iff, exists_eq_left, SearchPath.candidate,
    SearchPath.seenFrom_push _ _ hslash hstep, eq_comm]

theorem not_holds_of_isUnfit
    (h : ∀ d, SearchPath.StandsFor w.home directory e d →
      w.IsUnfit (d.push (Path.ofString tool.name).octets)) (file : Path) :
    ¬ w.Holds directory e tool file := by
  rintro ⟨⟨d, hd, rfl⟩, hprogram⟩
  exact isUnfit_iff.1 (h d hd) hprogram

/-- A file holds a tool in the earliest element of a search path that holds it. -/
def HoldsFirst (w : Surroundings) (p : SearchPath) (directory : Path) (tool : Tool) (file : Path) : Prop :=
  ∃ before e after, p.elements = before ++ e :: after ∧ w.Holds directory e tool file ∧
    ∀ earlier ∈ before, ∀ other, ¬ w.Holds directory earlier tool other

end Surroundings

/-! ## The search for one tool -/

namespace SearchPath

open Surroundings

variable {w : Surroundings} {p : SearchPath} {directory file : Path} {tool : Tool}

theorem find?_eq (w : Surroundings) (p : SearchPath) (directory : Path) (name : String) :
    p.find? w directory name = (p.elements.find? fun e =>
      w.files.isProgram w.directory (candidate w.home directory e name)).map fun e =>
        candidate w.home directory e name :=
  List.find?_map ..

theorem find?_eq_some_iff (htool : tool ∈ Tool.required) :
    p.find? w directory tool.name = some file ↔ w.HoldsFirst p directory tool file := by
  have hnot (e : Path) : (!w.files.isProgram w.directory (candidate w.home directory e tool.name)) = true ↔
      ∀ other, ¬ w.Holds directory e tool other := by
    simp [holds_iff htool]
  simp only [find?_eq, Option.map_eq_some_iff, List.find?_eq_some_iff_append, hnot, HoldsFirst,
    holds_iff htool]
  constructor
  · rintro ⟨e, ⟨hprogram, before, after, helements, hbefore⟩, rfl⟩
    exact ⟨before, e, after, helements, ⟨rfl, hprogram⟩, hbefore⟩
  · rintro ⟨before, e, after, helements, ⟨rfl, hprogram⟩, hbefore⟩
    exact ⟨e, ⟨hprogram, before, after, helements, hbefore⟩, rfl⟩

theorem exists_find?_iff (htool : tool ∈ Tool.required) :
    (∃ file, p.find? w directory tool.name = some file) ↔
      ∃ e ∈ p.elements, ∃ file, w.Holds directory e tool file := by
  simp only [find?_eq, Option.map_eq_some_iff, holds_iff htool]
  rw [exists_comm]
  simp only [exists_and_left, exists_eq', and_true, ← Option.isSome_iff_exists, List.find?_isSome,
    exists_eq_left']

/-- An element that holds no program of a name may stand anywhere in the search path. -/
theorem find?_insert {p' : SearchPath} {before after : List Path} {e : Path} (hp : p.elements = before ++ after)
    (hp' : p'.elements = before ++ e :: after) (htool : tool ∈ Tool.required)
    (he : ∀ file, ¬ w.Holds directory e tool file) :
    p'.find? w directory tool.name = p.find? w directory tool.name := by
  have hno : w.files.isProgram w.directory (candidate w.home directory e tool.name) = false :=
    Bool.eq_false_iff.2 fun h => he _ ((holds_iff htool).2 ⟨rfl, h⟩)
  simp only [find?_eq, hp, hp', List.find?_append, List.find?_cons, hno]

end SearchPath

/-! ## The search for all of them -/

namespace Tool

/-- The search comes to the end of the tools or to the first that is not found, and tells of each tool before
where it is. -/
theorem lookUp_stops (find? : String → Option Path) (tools : List Tool) :
    ∃ (found : List (Tool × Path)) (left : List Tool), tools = found.map Prod.fst ++ left ∧
      (∀ x ∈ found, find? x.1.name = some x.2) ∧ (∀ tool ∈ left.head?, find? tool.name = none) ∧
      (lookUp find? tools).2 = found.map fun x => ⟨.debug, .tools, x.1.foundMessage x.2⟩ := by
  induction tools with
  | nil => exact ⟨[], [], rfl, by simp, by simp, rfl⟩
  | cons tool rest ih =>
    cases hfind : find? tool.name with
    | none => exact ⟨[], tool :: rest, rfl, by simp, by simpa using hfind, by rw [lookUp, hfind]; rfl⟩
    | some file =>
      obtain ⟨found, left, htools, hfound, hleft, hevents⟩ := ih
      refine ⟨(tool, file) :: found, left, by rw [htools]; rfl, ?_, hleft, ?_⟩
      · exact List.forall_mem_cons.2 ⟨hfind, hfound⟩
      · simp only [lookUp, hfind, hevents, List.map_cons]

/-- Two ways to find files lead to the same if they agree on the tools. -/
theorem lookUp_congr {find? find?' : String → Option Path} {tools : List Tool}
    (h : ∀ tool ∈ tools, find? tool.name = find?' tool.name) : lookUp find? tools = lookUp find?' tools := by
  induction tools with
  | nil => rfl
  | cons tool rest ih =>
    rw [List.forall_mem_cons] at h
    simp only [lookUp, h.1, ih h.2]

end Tool

namespace Surroundings

variable {w : Surroundings} {searchPath : Option SearchPath} {directory : Path} {tool : Tool}

/-- Some element of the search path holds a tool. -/
def Has (w : Surroundings) (searchPath : Option SearchPath) (directory : Path) (tool : Tool) : Prop :=
  ∃ p, searchPath = some p ∧ ∃ e ∈ p.elements, ∃ file, w.Holds directory e tool file

theorem has_some {p : SearchPath} :
    w.Has (some p) directory tool ↔ ∃ e ∈ p.elements, ∃ file, w.Holds directory e tool file := by
  simp [Has]

theorem has_iff (htool : tool ∈ Tool.required) : w.Has searchPath directory tool ↔
    ∃ file, (searchPath.bind fun p => p.find? w directory tool.name) = some file := by
  simp only [Has, ← SearchPath.exists_find?_iff htool]
  cases searchPath <;> simp

end Surroundings

namespace Tool

open Surroundings

variable {w : Surroundings} {directory : Path}

theorem lookUpRequired_eq_ok_iff (w : Surroundings) (searchPath : Option SearchPath) (directory : Path) :
    (lookUpRequired w searchPath directory).1 = .ok () ↔
      ∀ tool ∈ required, w.Has searchPath directory tool := by
  rw [lookUpRequired, lookUp_eq_ok_iff]
  exact forall₂_congr fun tool htool => (has_iff htool).symm

theorem lookUpRequired_eq_error_iff (w : Surroundings) (searchPath : Option SearchPath) (directory : Path)
    (failure : Failure) :
    (lookUpRequired w searchPath directory).1 = .error failure ↔
      ∃ before tool after, required = before ++ tool :: after ∧
        (∀ earlier ∈ before, w.Has searchPath directory earlier) ∧ ¬ w.Has searchPath directory tool ∧
        failure = .missingTool tool := by
  rw [lookUpRequired, lookUp_eq_error_iff]
  refine exists_congr fun before => exists_congr fun tool => exists_congr fun after =>
    and_congr_right fun hrequired => ?_
  have hbefore (earlier : Tool) (h : earlier ∈ before) : earlier ∈ required :=
    hrequired ▸ List.mem_append_left _ h
  have htool : tool ∈ required := hrequired ▸ List.mem_append_right _ List.mem_cons_self
  rw [has_iff htool, Option.eq_none_iff_forall_ne_some, not_exists]
  exact and_congr_left' (forall₂_congr fun earlier h => (has_iff (hbefore earlier h)).symm)

theorem lookUpRequired_events (w : Surroundings) (searchPath : Option SearchPath) (directory : Path) :
    ∃ (found : List (Tool × Path)) (left : List Tool), required = found.map Prod.fst ++ left ∧
      (∀ x ∈ found, ∃ p, searchPath = some p ∧ w.HoldsFirst p directory x.1 x.2) ∧
      (∀ tool ∈ left.head?, ¬ w.Has searchPath directory tool) ∧
      (lookUpRequired w searchPath directory).2 =
        found.map fun x => ⟨.debug, .tools, x.1.foundMessage x.2⟩ := by
  obtain ⟨found, left, hrequired, hfound, hleft, hevents⟩ :=
    lookUp_stops (fun name => searchPath.bind fun p => p.find? w directory name) required
  refine ⟨found, left, hrequired, fun x hx => ?_, fun tool htool => ?_, hevents⟩
  · have hin : x.1 ∈ required := hrequired ▸ List.mem_append_left _ (List.mem_map_of_mem hx)
    obtain ⟨p, hp, hfile⟩ := Option.bind_eq_some_iff.1 (hfound x hx)
    exact ⟨p, hp, (SearchPath.find?_eq_some_iff hin).1 hfile⟩
  · have hin : tool ∈ required := hrequired ▸ List.mem_append_right _ (List.mem_of_mem_head? htool)
    rw [has_iff hin, hleft tool htool]
    rintro ⟨file, hfile⟩
    cases hfile

/-- A longer search path finds at least as much, in whatever order its elements stand. -/
theorem lookUpRequired_mono {p p' : SearchPath} (hsub : ∀ e ∈ p.elements, e ∈ p'.elements)
    (h : (lookUpRequired w (some p) directory).1 = .ok ()) :
    (lookUpRequired w (some p') directory).1 = .ok () := by
  rw [lookUpRequired_eq_ok_iff] at h ⊢
  intro tool htool
  obtain ⟨e, he, hfile⟩ := has_some.1 (h tool htool)
  exact has_some.2 ⟨e, hsub e he, hfile⟩

/-- An element that holds no required tool may stand anywhere in the search path. -/
theorem lookUpRequired_insert {p p' : SearchPath} {before after : List Path} {e : Path}
    (hp : p.elements = before ++ after) (hp' : p'.elements = before ++ e :: after)
    (he : ∀ tool ∈ required, ∀ file, ¬ w.Holds directory e tool file) :
    lookUpRequired w (some p') directory = lookUpRequired w (some p) directory :=
  lookUp_congr fun tool htool => SearchPath.find?_insert hp hp' htool (he tool htool)

/-- The lookup succeeds exactly if there is a search path and for each required tool some element of it that
holds the tool. Otherwise it fails for the first tool that no element holds. The events name, for the tools
before that one and in their order, the file in the earliest element. So a success stays one whatever
elements are added, repeated or put elsewhere, and what is no program counts nowhere and hides nothing. -/
theorem lookUpRequired_by_elements (w : Surroundings) (searchPath : Option SearchPath) (directory : Path) :
    let outcome := lookUpRequired w searchPath directory
    (outcome.1 = .ok () ↔ ∃ p, searchPath = some p ∧
      ∀ tool ∈ required, ∃ e ∈ p.elements, ∃ file, w.Holds directory e tool file) ∧
    (∀ failure, outcome.1 = .error failure ↔ ∃ before tool after, required = before ++ tool :: after ∧
      (∀ earlier ∈ before, w.Has searchPath directory earlier) ∧ ¬ w.Has searchPath directory tool ∧
      failure = .missingTool tool) ∧
    (∃ (found : List (Tool × Path)) (left : List Tool), required = found.map Prod.fst ++ left ∧
      (∀ x ∈ found, ∃ p, searchPath = some p ∧ w.HoldsFirst p directory x.1 x.2) ∧
      (∀ tool ∈ left.head?, ¬ w.Has searchPath directory tool) ∧
      outcome.2 = found.map fun x => ⟨.debug, .tools, x.1.foundMessage x.2⟩) ∧
    (∀ p p' : SearchPath, (∀ e ∈ p.elements, e ∈ p'.elements) →
      (lookUpRequired w (some p) directory).1 = .ok () → (lookUpRequired w (some p') directory).1 = .ok ()) ∧
    (∀ e tool file, w.IsUnfit file → ¬ w.Holds directory e tool file) ∧
    ∀ (p p' : SearchPath) (before after : List Path) (e : Path), p.elements = before ++ after →
      p'.elements = before ++ e :: after →
      (∀ tool ∈ required, ∀ d, SearchPath.StandsFor w.home directory e d →
        w.IsUnfit (d.push (Path.ofString tool.name).octets)) →
      lookUpRequired w (some p') directory = lookUpRequired w (some p) directory := by
  intro outcome
  refine ⟨?_, lookUpRequired_eq_error_iff w searchPath directory,
    lookUpRequired_events w searchPath directory, fun p p' => lookUpRequired_mono,
    fun e tool file hunfit hholds => isUnfit_iff.1 hunfit hholds.2, fun p p' before after e hp hp' he =>
      lookUpRequired_insert hp hp' fun tool htool => not_holds_of_isUnfit (he tool htool)⟩
  rw [lookUpRequired_eq_ok_iff]
  constructor
  · intro h
    obtain ⟨p, rfl, -⟩ := h _ (List.mem_cons_self : required.head _ ∈ required)
    exact ⟨p, rfl, fun tool htool => has_some.1 (h tool htool)⟩
  · rintro ⟨p, rfl, h⟩ tool htool
    exact ⟨p, rfl, h tool htool⟩

/-- One tool below the home directory, the other below the current one, and elsewhere a directory and a file of
their names that are no programs. -/
def scattered : Surroundings where
  files :=
    let tree := ({} : FileTree).makeDirectory [] (Path.ofString "/mixed/bq")
    let tree := tree.writeFile [] (Path.ofString "/mixed/bqschemaupdater") [] false
    let tree := tree.writeFile [] (Path.ofString "/home/sdk/bq") [] true
    tree.writeFile [] (Path.ofString "/work/bin/bqschemaupdater") [] true
  directory := []
  home := some (Path.ofString "/home")

theorem lookUpRequired_by_elements_scattered :
    let directory := Path.ofString "/work"
    let p : SearchPath := ⟨(Path.ofString "~/sdk:bin").octets⟩
    let p' : SearchPath := ⟨(Path.ofString "/mixed:~/sdk:bin").octets⟩
    (lookUpRequired scattered (some p') directory).1 = .ok () ∧
      lookUpRequired scattered (some p') directory = lookUpRequired scattered (some p) directory ∧
      (lookUpRequired scattered (some p') directory).2 =
        [⟨.debug, .tools, "found bq at /home/sdk/bq"⟩,
          ⟨.debug, .tools, "found bqschemaupdater at /work/bin/bqschemaupdater"⟩] := by
  intro directory p p'
  obtain ⟨-, -, -, hmono, -, hinsert⟩ := lookUpRequired_by_elements scattered (some p') directory
  have hsub : ∀ e ∈ p.elements, e ∈ p'.elements := by decide +kernel
  let here (name : String) : Location := ["mixed", name].map fun name => (Path.ofString name).octets
  have hunfit : ∀ tool ∈ required, ∀ d,
      SearchPath.StandsFor scattered.home directory (Path.ofString "/mixed") d →
      scattered.IsUnfit (d.push (Path.ofString tool.name).octets) := by
    rintro tool htool d hd
    rw [SearchPath.standsFor_iff.1 hd]
    simp only [required, List.mem_cons, List.not_mem_nil, or_false] at htool
    rcases htool with rfl | rfl
    · exact .directory (show _ = Except.ok (here "bq") by decide +kernel) (by decide +kernel)
    · exact .notExecutable (show _ = Except.ok (here "bqschemaupdater") by decide +kernel)
        (show _ = some (Entry.file [] false) by decide +kernel)
  have hok : (lookUpRequired scattered (some p) directory).1 = .ok () := by decide +kernel
  have hevents : (lookUpRequired scattered (some p) directory).2 =
      [⟨.debug, .tools, "found bq at /home/sdk/bq"⟩,
        ⟨.debug, .tools, "found bqschemaupdater at /work/bin/bqschemaupdater"⟩] := by decide +kernel
  have hsame := hinsert p p' [] p.elements (Path.ofString "/mixed") rfl (by decide +kernel) hunfit
  exact ⟨hmono p p' hsub hok, hsame, (congrArg Prod.snd hsame).trans hevents⟩

end Tool

end Provisioning
