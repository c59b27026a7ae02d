import Provisioning.Path
import Provisioning.Shell.Quote

/-! # Commands

A program with its arguments and, where it matters, the directory it runs in. -/
namespace Provisioning

/-- One call of an external program. -/
structure Command where
  program : String
  arguments : List String
  directory : Option Path := none
deriving DecidableEq, Repr, Inhabited

namespace Command

/-- The program and its arguments. -/
def words (c : Command) : List String :=
  c.program :: c.arguments

/-- The words as a shell reads them; the directory is not part of it. -/
def line (c : Command) : String :=
  Shell.join c.words

/-- A command with all its parts on one line. -/
def describe (c : Command) : String :=
  "Invocation \x7b program: " ++ Text.Quoted.quote c.program ++
    ", args: [" ++ ", ".intercalate (c.arguments.map Text.Quoted.quote) ++ "], cwd: " ++
    (match c.directory with
    | none => "None"
    | some d => "Some(" ++ d.quoted ++ ")") ++ " \x7d"

end Command

end Provisioning
