/-! # Exit statuses

How a command ended: with a code, or by a signal and so without one. -/
namespace Provisioning

/-- How a command ended. -/
structure ExitStatus where
  code : Option Int
deriving DecidableEq, Repr, Inhabited

namespace ExitStatus

/-- An ending with a code. -/
def ofCode (code : Int) : ExitStatus :=
  ⟨some code⟩

/-- The ending that a wait status tells of: a process that a signal ended has one in the lowest
seven bits, any other has its code in the eight bits above the lowest eight. -/
def ofWaitStatus (status : Int) : ExitStatus :=
  if status % 128 = 0 then ⟨some (status / 256 % 256)⟩ else ⟨none⟩

/-- The code zero alone is a success. -/
def isSuccess (s : ExitStatus) : Bool :=
  s.code == some 0

/-- An ending in words. -/
def display (s : ExitStatus) : String :=
  match s.code with
  | some code => "exit code " ++ toString code
  | none => "terminated by signal"

end ExitStatus

end Provisioning
