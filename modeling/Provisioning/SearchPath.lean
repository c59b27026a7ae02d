import Provisioning.Failure
import Provisioning.FileTree
import Provisioning.Log

/-! # Search paths

A search path lists directories between colons. The tools that must be installed are looked up in
it before anything else: a directory that starts with a tilde lies in the home directory, a relative
one is seen from a given directory, and the first file that may be executed is the tool. -/
namespace Provisioning

/-- Directories between colons, in the order of the search. -/
structure SearchPath where
  octets : List UInt8
deriving DecidableEq, Repr, Inhabited

/-- What the meaning of a path depends on. -/
structure Surroundings where
  files : FileTree
  /-- The directory from which relative paths are seen. -/
  directory : Location
  home : Option Path
deriving DecidableEq, Repr, Inhabited

namespace SearchPath

/-- The octet of the colon between directories. -/
def colon : UInt8 := 0x3A

/-- The name that stands for the home directory. -/
def tilde : List UInt8 := [0x7E]

/-- The directories, an empty one wherever nothing stands between two colons. -/
def elements (p : SearchPath) : List Path :=
  (p.octets.splitOn colon).map Path.mk

/-- A directory with the home directory in place of a first name that is a tilde. -/
def expandHome (home : Option Path) (element : Path) : Path :=
  match home, element.names with
  | some h, first :: rest =>
    if first == tilde then (rest.filter Path.isStep).foldl Path.push h
    else element
  | _, _ => element

/-- A path seen from a directory; an absolute one stays as it is. -/
def seenFrom (directory p : Path) : Path :=
  if p.isAbsolute then p else p.steps.foldl Path.push directory

/-- The file a directory of the search path would hold a program in. -/
def candidate (home : Option Path) (directory element : Path) (name : String) : Path :=
  seenFrom directory ((expandHome home element).push (Path.ofString name).octets)

/-- The first file along the search path that is the named program. -/
def find? (w : Surroundings) (p : SearchPath) (directory : Path) (name : String) : Option Path :=
  (p.elements.map fun element => candidate w.home directory element name).find?
    (w.files.isProgram w.directory)

end SearchPath

namespace Tool

/-- What is logged of a tool that was found. -/
def foundMessage (tool : Tool) (file : Path) : String :=
  "found " ++ tool.name ++ " at " ++ file.display

/-- Looks tools up one after another; the first that is missing ends the search. The events name the
files that were found. -/
def lookUp (find? : String → Option Path) : List Tool → Except Failure Unit × List Event
  | [] => (.ok (), [])
  | tool :: rest =>
    match find? tool.name with
    | none => (.error (.missingTool tool), [])
    | some file =>
      let later := lookUp find? rest
      (later.1, ⟨.debug, .tools, tool.foundMessage file⟩ :: later.2)

/-- Looks up the required tools along a search path; without one nothing is found. -/
def lookUpRequired (w : Surroundings) (searchPath : Option SearchPath) (directory : Path) :
    Except Failure Unit × List Event :=
  lookUp (fun name => searchPath.bind fun p => p.find? w directory name) required

end Tool

end Provisioning
