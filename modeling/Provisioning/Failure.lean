import Provisioning.ExitStatus
import Provisioning.Layout.Load
import Provisioning.ProjectId
import Provisioning.Tool

/-! # Failures

Why provisioning did not come to its end. -/
namespace Provisioning

/-- Why provisioning did not come to its end. -/
inductive Failure where
  | missingTool (tool : Tool)
  | invalidProjectId (raw : String)
  | schemaDirectoryMissing (path : Path)
  /-- A command could not even be started. -/
  | notStarted (command : String) (cause : SystemError)
  | stepFailed (label : String) (status : ExitStatus)
  /-- A table was left half made; the cleanup removes it. -/
  | tableFailed (label : String) (status : ExitStatus) (cleanup : String)
  /-- The file that describes the layout is no good; the text that was read goes with the error. -/
  | layout (error : Layout.LoadError) (document : List Char)
deriving DecidableEq, Repr

namespace Failure

/-- The failure in words. -/
def message : Failure → String
  | .missingTool tool =>
    "Please install '" ++ tool.name ++ "' from " ++ tool.origin ++ "\n  " ++ tool.install
  | .invalidProjectId raw => "invalid project id " ++ Text.Quoted.quote raw
  | .schemaDirectoryMissing path => "schema directory " ++ path.quoted ++ " does not exist"
  | .notStarted command _ => "failed to run `" ++ command ++ "`"
  | .stepFailed label status => label ++ " failed (" ++ status.display ++ ")"
  | .tableFailed label status _ => label ++ " failed (" ++ status.display ++ ")"
  | .layout error _ => error.message

/-- What caused the failure, in words, from the nearest cause on. -/
def causes (account : Layout.Account) : Failure → List String
  | .notStarted _ cause => [cause.message]
  | .layout error document => error.causes (account document)
  | _ => []

/-- The command that has to be run before another attempt. -/
def cleanup? : Failure → Option String
  | .tableFailed _ _ cleanup => some cleanup
  | _ => none

/-- The failure and its causes, one behind the other. -/
def chain (account : Layout.Account) (f : Failure) : String :=
  ": ".intercalate (f.message :: f.causes account)

end Failure

/-- Reads a project id, or tells which text is none. -/
def ProjectId.parse (raw : String) : Except Failure ProjectId :=
  match parse? raw with
  | some project => .ok project
  | none => .error (.invalidProjectId raw)

theorem ProjectId.parse_eq_ok_iff {raw : String} {p : ProjectId} :
    parse raw = .ok p ↔ parse? raw = some p := by
  unfold parse
  cases parse? raw <;> simp

theorem ProjectId.parse_eq_error_iff {raw : String} {failure : Failure} :
    parse raw = .error failure ↔ parse? raw = none ∧ failure = .invalidProjectId raw := by
  unfold parse
  cases parse? raw <;> simp [eq_comm]

end Provisioning
