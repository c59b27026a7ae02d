import Provisioning.Command
import Provisioning.ExitStatus
import Provisioning.Log
import Provisioning.SystemError

/-! # Hosts

What a run needs of the machine: which paths are directories, and what comes of starting a command. The
machine may change with every command, so its state is passed along. -/
namespace Provisioning

/-- What comes of starting a command: how it ended, or why it never started. -/
abbrev Reply := Except SystemError ExitStatus

/-- A started command: the answer, what was logged on the way and the state afterwards. -/
structure Launch (σ : Type) where
  reply : Reply
  events : List Event := []
  next : σ

/-- A machine with some state. -/
structure Host (σ : Type) where
  isDirectory : σ → Path → Bool
  start : σ → Command → Launch σ

namespace Host

/-- What a preview logs of a command. -/
def previewMessage (c : Command) : String :=
  match c.directory with
  | some d => "dry run (in " ++ d.display ++ "): " ++ c.line
  | none => "dry run: " ++ c.line

/-- A machine on which every command is logged, is not run and counts as a success. -/
def preview {σ : Type} (isDirectory : σ → Path → Bool) : Host σ where
  isDirectory := isDirectory
  start s c :=
    { reply := .ok (ExitStatus.ofCode 0)
      events := [⟨.info, .runner, previewMessage c⟩]
      next := s }

/-- What is logged before a command is started. -/
def startMessage (c : Command) : String :=
  "spawning " ++ c.describe

/-- A machine that also logs each command before it starts it. -/
def logged {σ : Type} (h : Host σ) : Host σ where
  isDirectory := h.isDirectory
  start s c :=
    let launch := h.start s c
    { launch with events := ⟨.trace, .runner, startMessage c⟩ :: launch.events }

/-- A machine that answers from a list, and with success once the list has run out. -/
def scripted (isDirectory : Path → Bool) : Host (List Reply) where
  isDirectory _ := isDirectory
  start replies _ :=
    { reply := replies.headD (.ok (ExitStatus.ofCode 0))
      next := replies.tail }

end Host

end Provisioning
