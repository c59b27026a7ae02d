import Provisioning.Proofs.Program.Refusal

/-! # Notices

A call that was not silent has given one notice: how to get what is missing, how the program is called, what
to remove before another attempt, or an error with all that it came from. Each ending goes with one notice
at most, and what is printed then are the lines of that notice. -/
namespace Provisioning

/-! ## Errors and what they came from -/

/-- Something that went wrong. -/
inductive Fault where
  | failure (failure : Failure)
  | layout (error : Layout.LoadError) (document : List Char)
  | malformed (document : List Char) (reason : Layout.Malformed)
  | system (error : SystemError)
deriving DecidableEq, Repr

namespace Fault

/-- The fault in words; those for a malformed text are the reader's of TOML. -/
def message (account : Layout.Account) : Fault → String
  | .failure f => f.message
  | .layout error _ => error.message
  | .malformed document reason => account document reason
  | .system error => error.message

/-- What an error of a configuration came from. -/
def ofLoadError? (document : List Char) : Layout.LoadError → Option Fault
  | .unreadable _ cause => some (.system cause)
  | .malformed _ cause => some (.malformed document cause)
  | .invalid _ => none

/-- The fault itself: a failure that stands for an error of a configuration is that error. -/
def itself : Fault → Fault
  | .failure (.layout error document) => .layout error document
  | fault => fault

/-- What a fault came from. A failure that stands for an error of a configuration is shown as that error, so
it comes from whatever the error came from. Nothing stands behind a malformed text. -/
def cause? : Fault → Option Fault
  | .failure (.notStarted _ cause) => some (.system cause)
  | .failure (.layout error document) | .layout error document => ofLoadError? document error
  | _ => none

/-- All that a fault came from, each cause behind what it caused. -/
inductive ComesFrom : Fault → List Fault → Prop
  | last {fault : Fault} : fault.cause? = none → ComesFrom fault []
  | next {fault cause : Fault} {causes : List Fault} : fault.cause? = some cause →
      ComesFrom cause causes → ComesFrom fault (cause :: causes)

theorem ComesFrom.unique {fault : Fault} {causes causes' : List Fault} (h : ComesFrom fault causes)
    (h' : ComesFrom fault causes') : causes = causes' := by
  induction h generalizing causes' with
  | last hnone =>
    cases h' with
    | last => rfl
    | next hsome => cases hnone.symm.trans hsome
  | next hsome _ ih =>
    cases h' with
    | last hnone => cases hnone.symm.trans hsome
    | next hsome' hrest =>
      cases hsome.symm.trans hsome'
      rw [ih hrest]

/-- Only a malformed configuration has a malformed text among its causes. -/
theorem ComesFrom.eq_layout_of_mem {failure : Failure} {causes : List Fault} {document : List Char}
    {reason : Layout.Malformed} (h : ComesFrom (.failure failure) causes)
    (hmem : .malformed document reason ∈ .failure failure :: causes) :
    ∃ path, failure = .layout (.malformed path reason) document := by
  cases failure with
  | notStarted command cause =>
    cases h.unique (.next rfl (.last rfl))
    simp at hmem
  | layout error document' =>
    cases error with
    | unreadable path cause =>
      cases h.unique (.next rfl (.last rfl))
      simp at hmem
    | malformed path cause =>
      cases h.unique (.next rfl (.last rfl))
      obtain ⟨rfl, rfl⟩ : document = document' ∧ reason = cause := by simpa using hmem
      exact ⟨path, rfl⟩
    | invalid reason =>
      cases h.unique (.last rfl)
      simp at hmem
  | _ =>
    cases h.unique (.last rfl)
    simp at hmem

end Fault

/-- A failure tells all that it came from, in order, and nothing twice. -/
theorem Failure.exists_comesFrom (failure : Failure) :
    ∃ causes, Fault.ComesFrom (.failure failure) causes ∧
      ((.failure failure :: causes).map Fault.itself).Nodup ∧
      ∀ account, failure.chain account =
        ": ".intercalate ((.failure failure :: causes).map (Fault.message account)) := by
  cases failure with
  | notStarted command cause =>
    exact ⟨[.system cause], .next rfl (.last rfl), by simp [Fault.itself], fun _ => rfl⟩
  | layout error document =>
    cases error with
    | unreadable path cause =>
      exact ⟨[.system cause], .next rfl (.last rfl), by simp [Fault.itself], fun _ => rfl⟩
    | malformed path cause =>
      exact ⟨[.malformed document cause], .next rfl (.last rfl), by simp [Fault.itself], fun _ => rfl⟩
    | invalid reason => exact ⟨[], .last rfl, by simp [Fault.itself], fun _ => rfl⟩
  | _ => exact ⟨[], .last rfl, by simp [Fault.itself], fun _ => rfl⟩

/-! ## Notices -/

/-- What a call that was not silent has to say. -/
inductive Notice where
  | install (tool : Tool)
  | usage
  | project (raw : String)
  | restart (label : String) (status : ExitStatus) (cleanup : String)
  | view (label cleanup : String)
  | chain (faults : List Fault)
deriving DecidableEq, Repr

namespace Notice

/-- How the program is called. -/
def usageLines : List String :=
  ["usage: " ++ Options.programName ++ " <instanceid>", "",
    "Pass one argument which is the instance name"]

theorem usage_eq : Options.usage = String.join (usageLines.map (· ++ "\n")) := by
  decide +kernel

/-- The notice line by line; the faults of a chain are told in one piece. -/
def lines (account : Layout.Account) : Notice → List String
  | .install tool =>
    ["Please install '" ++ tool.name ++ "' from " ++ tool.origin, "  " ++ tool.install]
  | .usage => usageLines
  | .project raw => ("invalid project id " ++ Text.Quoted.quote raw) :: "" :: usageLines
  | .restart label status cleanup =>
    ["", label ++ " failed (" ++ status.display ++ ")", "",
      "Oh no! You may need to restart from scratch. You can do so with:", "", "  " ++ cleanup, "",
      "and run " ++ Options.programName ++ " again."]
  | .view label cleanup =>
    ["", label ++ " failed. You may need to delete it with:", "", "  " ++ cleanup, "",
      "and run " ++ Options.programName ++ " again."]
  | .chain faults => [": ".intercalate (faults.map (Fault.message account))]

/-- The notice as it is printed. -/
def text (account : Layout.Account) (notice : Notice) : String :=
  String.join ((notice.lines account).map (· ++ "\n"))

/-- The command that the notice asks to be run. -/
def cleanup? : Notice → Option String
  | .restart _ _ cleanup | .view _ cleanup => some cleanup
  | _ => none

theorem text_ne_empty (account : Layout.Account) (notice : Notice) : notice.text account ≠ "" := by
  obtain ⟨line, rest, hlines⟩ : ∃ line rest, notice.lines account = line :: rest := by
    cases notice <;> exact ⟨_, _, rfl⟩
  rw [text, hlines, List.map_cons, String.join_cons]
  intro hempty
  have hlength := congrArg String.length hempty
  simp at hlength

end Notice

/-- A text that was made of lines splits into them, if none of them has an end of its own. -/
theorem splitOn_lines {lines : List String} (h : ∀ line ∈ lines, '\n' ∉ line.toList) :
    (String.join (lines.map (· ++ "\n"))).toList.splitOn '\n' = lines.map String.toList ++ [[]] := by
  induction lines with
  | nil => simp
  | cons line rest ih =>
    have hline : '\n' ∉ line.toList := h line List.mem_cons_self
    have hrest := ih fun line hline => h line (List.mem_cons_of_mem _ hline)
    have hend : "\n".toList = ['\n'] := rfl
    rw [List.map_cons, String.join_cons, String.toList_append, String.toList_append, hend,
      List.append_assoc, List.singleton_append, List.splitOn_append_cons_self_of_not_mem hline, hrest,
      List.map_cons, List.cons_append]

/-! ## Endings -/

/-- Only the error itself is shown of the failure. -/
def Failure.IsPlain : Failure → Prop
  | .missingTool _ | .invalidProjectId _ | .tableFailed .. => False
  | .schemaDirectoryMissing _ | .notStarted .. | .stepFailed .. | .layout .. => True

namespace Ending

variable (account : Layout.Account)

/-- The notice that goes with an ending. -/
inductive Shows : Ending → Notice → Prop
  | install (tool : Tool) : Shows (.failed (.missingTool tool)) (.install tool)
  | usage : Shows .misuse .usage
  | project (raw : String) : Shows (.failed (.invalidProjectId raw)) (.project raw)
  | restart (label : String) (status : ExitStatus) (cleanup : String) :
      Shows (.failed (.tableFailed label status cleanup)) (.restart label status cleanup)
  | view {report : Report} {label cleanup : String} : report.pendingCleanups = [(label, cleanup)] →
      Shows (.finished report) (.view label cleanup)
  | chain {failure : Failure} {causes : List Fault} : failure.IsPlain →
      Fault.ComesFrom (.failure failure) causes →
      Shows (.failed failure) (.chain (.failure failure :: causes))

theorem text_of_isPlain {failure : Failure} (h : failure.IsPlain) :
    (Ending.failed failure).text account = failure.chain account ++ "\n" := by
  delta Ending.text failureText
  cases failure with
  | missingTool => exact h.elim
  | invalidProjectId => exact h.elim
  | tableFailed => exact h.elim
  | _ => rfl

theorem text_tableFailed (label : String) (status : ExitStatus) (cleanup : String) :
    (Ending.failed (.tableFailed label status cleanup)).text account =
      restartText (label ++ " failed (" ++ status.display ++ ")") cleanup := by
  delta Ending.text failureText Failure.message
  dsimp only

namespace Shows

variable {ending : Ending} {notice notice' : Notice}

theorem text_eq (h : ending.Shows notice) : ending.text account = notice.text account := by
  cases h with
  | install tool =>
    rw [text_missingTool]
    apply String.toList_inj.1
    simp [Notice.text, Notice.lines]
  | usage => exact Notice.usage_eq
  | project raw =>
    rw [text_invalidProjectId, Notice.usage_eq]
    apply String.toList_inj.1
    simp [Notice.text, Notice.lines]
  | restart label status cleanup =>
    rw [text_tableFailed]
    apply String.toList_inj.1
    simp [Notice.text, Notice.lines, restartText]
  | @view report label cleanup hpending =>
    apply String.toList_inj.1
    simp [Notice.text, Notice.lines, Ending.text, hpending, cleanupText]
  | @chain failure causes hplain hcauses =>
    obtain ⟨causes', hcauses', -, hchain⟩ := failure.exists_comesFrom
    cases hcauses.unique hcauses'
    rw [text_of_isPlain account hplain, hchain]
    simp [Notice.text, Notice.lines]

theorem unique (h : ending.Shows notice) (h' : ending.Shows notice') : notice = notice' := by
  cases h with
  | install tool => cases h' with
    | install => rfl
    | chain hplain => exact hplain.elim
  | usage => cases h' with
    | usage => rfl
  | project raw => cases h' with
    | project => rfl
    | chain hplain => exact hplain.elim
  | restart => cases h' with
    | restart => rfl
    | chain hplain => exact hplain.elim
  | view hpending => cases h' with
    | view hpending' =>
      cases hpending.symm.trans hpending'
      rfl
  | chain hplain hcauses => cases h' with
    | install => exact hplain.elim
    | project => exact hplain.elim
    | restart => exact hplain.elim
    | chain _ hcauses' => rw [hcauses.unique hcauses']

theorem nodup {faults : List Fault} (h : ending.Shows (.chain faults)) :
    (faults.map Fault.itself).Nodup := by
  cases h with
  | @chain failure causes _ hcauses =>
    obtain ⟨causes', hcauses', hnodup, -⟩ := failure.exists_comesFrom
    rw [hcauses.unique hcauses']
    exact hnodup

theorem exitCode_eq_zero_iff (h : ending.Shows notice) :
    ending.exitCode = 0 ↔ ∃ label cleanup, notice = .view label cleanup := by
  cases h <;> simp [exitCode]

end Shows

end Ending

end Provisioning
