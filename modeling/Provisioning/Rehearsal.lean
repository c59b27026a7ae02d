import Provisioning.Process

/-! # Rehearsals

A machine whose programs are stand-ins: each prints its line, ends as its own list tells, and with
success once the list has run out. What was called and printed is kept. -/
namespace Provisioning

/-- A program that does nothing but print a line and end. -/
structure StandIn where
  place : Location
  endings : List ExitStatus
  line : Option String
deriving DecidableEq, Repr, Inhabited

/-- A program that was executed, with its arguments and the directory it ran in. -/
structure Call where
  program : String
  arguments : List String
  directory : Location
deriving DecidableEq, Repr, Inhabited

/-- The files, the stand-ins among them, and what they have done. -/
structure Rehearsal where
  files : FileTree := {}
  standIns : List StandIn := []
  printed : List String := []
  calls : List Call := []
deriving DecidableEq, Repr, Inhabited

namespace Rehearsal

/-- Whether the octets of a file say which program reads them. -/
def isScript (content : List UInt8) : Bool :=
  (Path.ofString "#!").octets.isPrefixOf content

/-- Executes the file at a location. A script that is no stand-in does nothing, and what is neither
cannot be executed. -/
def execute (r : Rehearsal) (file directory : Location) (c : Command) : Reply × Rehearsal :=
  match r.standIns.find? (·.place == file) with
  | some standIn =>
    let others := r.standIns.filter (·.place != file)
    (.ok (standIn.endings.headD (ExitStatus.ofCode 0)),
      { r with
        standIns := { standIn with endings := standIn.endings.tail } :: others
        printed := r.printed ++ standIn.line.toList
        calls := r.calls ++ [⟨c.program, c.arguments, directory⟩] })
  | none =>
    match r.files.find? file with
    | some (.file content _) =>
      (if isScript content then .ok (ExitStatus.ofCode 0) else .error .notProgram, r)
    | _ => (.error .noSuchFile, r)

/-- The machine on which a rehearsal takes place. -/
def machine (directory : Location) (home : Option Path) (searchPath : Option SearchPath) :
    Machine Rehearsal where
  files := files
  directory := directory
  home := home
  searchPath := searchPath
  execute := execute

/-- What the stand-ins printed, each line with its end. -/
def text (r : Rehearsal) : String :=
  String.join (r.printed.map (· ++ "\n"))

end Rehearsal

end Provisioning
