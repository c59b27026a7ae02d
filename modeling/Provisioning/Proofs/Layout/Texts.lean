import Provisioning.Proofs.Layout.Overlay
import Provisioning.Proofs.Toml.Lines

/-! # One configuration in many texts

A configuration may be written with its entries in any order, with a table inline, under a header of its own
or by dotted keys, and with an array of tables inline or by headers. What is loaded depends on the table that
is written and not on how. -/
namespace Provisioning.Layout

section Load
variable {table : Toml.Entries} {path : Path}

theorem load_eq_answer (htable : (Toml.Value.table table).IsSorted) {text : List Char}
    (htext : Toml.Writes table text) {read : Path → Except SystemError (List UInt8)}
    (hread : read path = .ok (Text.Utf8.encode text)) : load read path = answer path table := by
  have hdecode : textOf (Text.Utf8.encode text) = .ok text := by rw [textOf, Text.Utf8.decode?_encode]
  exact load_of_document hread hdecode (htext.document? htable)

/-- Every text of a table gives the same answer, however it orders the entries of the table and of those in
it, and whichever of them it writes inline, by dotted keys or behind headers. -/
theorem load_eq_of_writes (htable : (Toml.Value.table table).IsSorted) (path : Path) :
    (∀ (text : List Char) (read : Path → Except SystemError (List UInt8)),
      Toml.Writes table text → read path = .ok (Text.Utf8.encode text) →
        load read path = answer path table) ∧
    ∀ (text text' : List Char) (read read' : Path → Except SystemError (List UInt8)),
      Toml.Writes table text → Toml.Writes table text' →
        read path = .ok (Text.Utf8.encode text) → read' path = .ok (Text.Utf8.encode text') →
          load read path = load read' path := by
  refine ⟨fun text read htext hread => load_eq_answer htable htext hread, ?_⟩
  intro text text' read read' htext htext' hread hread'
  rw [load_eq_answer htable htext hread, load_eq_answer htable htext' hread']

end Load

/-! ## A view written in three ways -/

section View

/-- A view with both of its parts, in a configuration that is not valid. -/
def misnamed : Toml.Entries :=
  [("dataset", .string "no name"),
    ("view", .table [("name", .string "delta"), ("source_table", .string "task_results")])]

/-- The view inline and first, with a line break between its entries. -/
def inlineView : String :=
  "view = \x7bsource_table = \"task_results\",\n  name = \"delta\"\x7d\ndataset = \"no name\"\n"

/-- The view by dotted keys, with another entry in between. -/
def dottedView : String :=
  "view.source_table = \"task_results\"\ndataset = \"no name\"\nview.name = \"delta\"\n"

/-- The view last, behind its header. -/
def openedView : String :=
  "dataset = \"no name\"\n[view]\nsource_table = \"task_results\"\nname = \"delta\"\n"

theorem isSorted_misnamed : (Toml.Value.table misnamed).IsSorted := by
  have hview : (Toml.Value.table [("name", .string "delta"), ("source_table", .string "task_results")]).IsSorted := by
    refine .table (by decide) ?_
    simp only [List.forall_mem_cons]
    exact ⟨.string _, .string _, by simp⟩
  refine .table (by decide) ?_
  simp only [misnamed, List.forall_mem_cons]
  exact ⟨.string _, hview, by simp⟩

theorem isBareKey_misnamed : Toml.isBareKey "dataset" = true ∧ Toml.isBareKey "view" = true ∧
    Toml.isBareKey "name" = true ∧ Toml.isBareKey "source_table" = true := by
  decide

/-- A string as a value inside another, or on its own. -/
theorem valueText_quote (depth : Nat) (text : String) :
    Toml.ValueText (depth + 1) (.string text) (Toml.Style.plain.quote text) :=
  .simple (Toml.simple_quote Toml.Style.plain text)

theorem writes_inlineView : Toml.Writes misnamed inlineView.toList := by
  obtain ⟨hdataset, hview, hname, hsource⟩ := isBareKey_misnamed
  have hspace : Toml.Filler [' '] := .blank rfl .nil
  have hindent : Toml.Filler (['\n'] ++ [' ', ' ']) := .lineBreak .feed (.blank rfl hspace)
  have hlists : Toml.Lists [("name", .string "delta"), ("source_table", .string "task_results")]
      [(⟨[], "source_table"⟩, .string "task_results"), (⟨[], "name"⟩, .string "delta")] :=
    ⟨_, .cons (.whole _ _) (.cons (.whole _ _) .nil), .swap _ _ _⟩
  have hinline : Toml.ValueText Toml.depthLimit _ _ := .table hlists
    (.cons .nil (Toml.entryText_bare hsource hspace (valueText_quote 78 "task_results")) .nil
      (.last hindent (Toml.entryText_bare hname hspace (valueText_quote 78 "delta")) .nil))
  have htext := Toml.StatementsText.cons .nil (.entry (Toml.entryText_bare hview Toml.blanks_space hinline))
    Toml.lineEnd_feed (.cons .nil (.entry (Toml.entryText_bare hdataset Toml.blanks_space
      (valueText_quote 79 "no name"))) Toml.lineEnd_feed (.nil .nil))
  have hmisnamed : Toml.Lists misnamed [(⟨[], "view"⟩, _), (⟨[], "dataset"⟩, _)] :=
    ⟨_, .cons (.whole _ _) (.cons (.whole _ _) .nil), .swap _ _ _⟩
  refine ⟨_, ⟨misnamed, [], _, [], by simp, hmisnamed, .nil, rfl⟩, ?_⟩
  exact (congrArg (Toml.StatementsText _) (by decide +kernel)).mp htext

theorem writes_dottedView : Toml.Writes misnamed dottedView.toList := by
  obtain ⟨hdataset, hview, hname, hsource⟩ := isBareKey_misnamed
  have hdotted : ∀ {key : String}, Toml.isBareKey key = true → ∀ text,
      Toml.StatementText (.entry ⟨["view"], key⟩ (.string text)) _ := fun hkey text =>
    .entry (.mk (.dotted (Toml.keyPart_bare hview) Toml.blanks_nil Toml.blanks_nil (Toml.keyText_bare hkey))
      (show 2 ≤ 80 by decide) Toml.blanks_space Toml.blanks_space (valueText_quote 79 text))
  have htext := Toml.StatementsText.cons .nil (hdotted hsource "task_results") Toml.lineEnd_feed
    (.cons .nil (.entry (Toml.entryText_bare hdataset Toml.blanks_space (valueText_quote 79 "no name")))
      Toml.lineEnd_feed (.cons .nil (hdotted hname "delta") Toml.lineEnd_feed (.nil .nil)))
  have hmisnamed : Toml.Lists misnamed [(⟨["view"], "source_table"⟩, .string "task_results"),
      (⟨[], "dataset"⟩, .string "no name"), (⟨["view"], "name"⟩, .string "delta")] := by
    refine ⟨_, .cons (.whole _ _) (.cons (.dotted "view" (by simp)) .nil), ?_⟩
    exact (List.Perm.swap _ _ _).trans (.cons _ (.swap _ _ _))
  refine ⟨_, ⟨misnamed, [], _, [], by simp, hmisnamed, .nil, rfl⟩, ?_⟩
  exact (congrArg (Toml.StatementsText _) (by decide +kernel)).mp htext

theorem writes_openedView : Toml.Writes misnamed openedView.toList := by
  have hlines : ∀ line ∈ [.entry "dataset" "no name", .tableHeader "view",
      .entry "source_table" "task_results", .entry "name" "delta"], Toml.isBareKey (Toml.Line.key line) = true := by
    decide
  have htext := Toml.statementsText_render Toml.Style.plain hlines
  have hlisted : Toml.Lists [("dataset", .string "no name")] [(⟨[], "dataset"⟩, .string "no name")] :=
    ⟨_, .cons (.whole _ _) .nil, .refl _⟩
  have hview : Toml.Lists [("name", .string "delta"), ("source_table", .string "task_results")]
      [(⟨[], "source_table"⟩, .string "task_results"), (⟨[], "name"⟩, .string "delta")] :=
    ⟨_, .cons (.whole _ _) (.cons (.whole _ _) .nil), .swap _ _ _⟩
  refine ⟨_, ⟨_, _, _, _, .refl _, hlisted, .cons (.table "view" hview) .nil, rfl⟩, ?_⟩
  exact (congrArg (Toml.StatementsText _) (by decide +kernel)).mp htext

/-- In each way the view is read alike, and so is what is wrong with the rest. -/
theorem load_eq_of_writes_view :
    load (fun _ => .ok (Text.Utf8.encode inlineView.toList)) (Path.ofString "bq.toml") =
      .error (.invalid "dataset must be a BigQuery identifier, got \"no name\"") ∧
    load (fun _ => .ok (Text.Utf8.encode dottedView.toList)) (Path.ofString "bq.toml") =
      load (fun _ => .ok (Text.Utf8.encode inlineView.toList)) (Path.ofString "bq.toml") ∧
    load (fun _ => .ok (Text.Utf8.encode openedView.toList)) (Path.ofString "bq.toml") =
      load (fun _ => .ok (Text.Utf8.encode inlineView.toList)) (Path.ofString "bq.toml") := by
  obtain ⟨hanswer, halike⟩ := load_eq_of_writes isSorted_misnamed (Path.ofString "bq.toml")
  exact ⟨(hanswer _ _ writes_inlineView rfl).trans rfl,
    halike _ _ _ _ writes_dottedView writes_inlineView rfl rfl,
    halike _ _ _ _ writes_openedView writes_inlineView rfl rfl⟩

end View

end Provisioning.Layout
