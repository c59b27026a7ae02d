import Provisioning.Process

/-! # Handing commands over

A machine that starts nothing itself: each command goes to someone else, who tells how it ended. As long
as nothing is known of a command it waits, and the run that asked for it stops there; a run with more
answers repeats the one before and goes on. -/
namespace Provisioning

/-- The files, the answers that are still to be used, and the command that waits for one. -/
structure Handover where
  files : FileTree
  answers : List Reply
  waiting : Option Command := none

namespace Handover

/-- Takes the next answer, or lets the command wait. -/
def execute (h : Handover) (_ _ : Location) (c : Command) : Reply × Handover :=
  match h.answers with
  | answer :: rest => (answer, { h with answers := rest })
  | [] => (.error .interrupted, { h with waiting := some c })

/-- The machine of a handover. -/
def machine (directory : Location) (home : Option Path) (searchPath : Option SearchPath) :
    Machine Handover where
  files := files
  directory := directory
  home := home
  searchPath := searchPath
  execute := execute

/-- A command as a line for a shell, which changes to its directory first. -/
def request (c : Command) : String :=
  match c.directory with
  | some d => Shell.join ["cd", d.display] ++ " && " ++ c.line
  | none => c.line

/-- How a command ended, in the words of whoever ran it: an exit code, or the word `signal`. -/
def answer (text : String) : Reply :=
  let word := text.trimAscii.toString
  match word.toInt? with
  | some code => .ok (ExitStatus.ofCode code)
  | none => if word = "signal" then .ok ⟨none⟩ else .error .interrupted

end Handover

end Provisioning
