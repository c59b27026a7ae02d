import Provisioning.Host
import Provisioning.SearchPath

/-! # Processes

How a machine starts a command: no word may hold a NUL, the directory must be one, and the program
is the first file of that name along the search path, whose relative directories are seen from the
directory the command runs in. A file that may not be executed is passed over and remembered. -/
namespace Provisioning

/-- A machine whose state holds files. Executing the file at a location, in a directory, gives an
answer and may change the state. -/
structure Machine (σ : Type) where
  files : σ → FileTree
  /-- Where the program itself runs. -/
  directory : Location
  home : Option Path
  searchPath : Option SearchPath
  execute : σ → Location → Location → Command → Reply × σ

namespace Process

/-- The search path in force where none is given. -/
def standardSearchPath : SearchPath :=
  ⟨(Path.ofString "/bin:/usr/bin").octets⟩

/-- Why a program could not be executed so far: what came of the last file that was tried, and
whether some file was there that may not be executed. -/
structure Refusal where
  last : SystemError := .noSuchFile
  denied : Bool := false
deriving DecidableEq, Repr, Inhabited

namespace Refusal

/-- What is reported in the end. -/
def cause (r : Refusal) : SystemError :=
  if r.denied then .accessDenied else r.last

/-- After one more file that could not be executed, if that does not end the search. -/
def push? (r : Refusal) (e : SystemError) : Option Refusal :=
  if e = .noSuchFile ∨ e = .notDirectory then some { r with last := e }
  else if e = .accessDenied then some ⟨e, true⟩
  else none

end Refusal

/-- Whether a path leads to a file that may be executed, and why not otherwise. -/
def program (files : FileTree) (directory : Location) (p : Path) : Except SystemError Location := do
  let l ← files.resolve directory p
  if files.isProgramAt l then .ok l else .error .accessDenied

/-- The first of some paths that leads to a file that may be executed. -/
def firstProgram (files : FileTree) (directory : Location) :
    List Path → Refusal → Except SystemError Location
  | [], r => .error r.cause
  | p :: rest, r =>
    match program files directory p with
    | .ok l => .ok l
    | .error e =>
      match r.push? e with
      | some r => firstProgram files directory rest r
      | none => .error e

/-- The directories of a search path as they are tried. The directory a command runs in takes the place
of one too long for any path, but nothing does at the end. -/
def tried : List Path → List Path
  | [] => []
  | e :: rest =>
    if e.octets.length < FileTree.pathLimit then e :: tried rest
    else if rest.isEmpty then []
    else ⟨[]⟩ :: tried rest

/-- The file that a command's program names, seen from the directory it runs in. -/
def findProgram (files : FileTree) (searchPath : Option SearchPath) (directory : Location)
    (name : String) : Except SystemError Location :=
  let elements := tried (searchPath.getD standardSearchPath).elements
  firstProgram files directory (elements.map fun e => e.push (Path.ofString name).octets) {}

end Process

namespace Machine

/-- What the meaning of a path depends on. -/
def surroundings {σ : Type} (m : Machine σ) (s : σ) : Surroundings :=
  ⟨m.files s, m.directory, m.home⟩

/-- Whether a path leads to a directory. -/
def isDirectory {σ : Type} (m : Machine σ) (s : σ) (p : Path) : Bool :=
  (m.files s).isDirectory m.directory p

/-- The octets of the file that a path leads to. -/
def read {σ : Type} (m : Machine σ) (s : σ) (p : Path) : Except SystemError (List UInt8) :=
  (m.files s).read m.directory p

/-- The directory a command runs in. -/
def directoryOf {σ : Type} (m : Machine σ) (s : σ) (c : Command) : Except SystemError Location :=
  match c.directory with
  | some d => (m.files s).enter m.directory d
  | none => .ok m.directory

/-- The file that a command executes and the directory it runs in. -/
def prepare {σ : Type} (m : Machine σ) (s : σ) (c : Command) :
    Except SystemError (Location × Location) := do
  if c.words.any fun word => word.toList.contains '\x00' then .error .nulInWord
  let directory ← m.directoryOf s c
  let file ← Process.findProgram (m.files s) m.searchPath directory c.program
  return (file, directory)

/-- Starts a command. -/
def start {σ : Type} (m : Machine σ) (s : σ) (c : Command) : Launch σ :=
  match m.prepare s c with
  | .error cause => { reply := .error cause, next := s }
  | .ok (file, directory) =>
    let (reply, next) := m.execute s file directory c
    { reply := reply, next := next }

/-- What a run sees of a machine. -/
def host {σ : Type} (m : Machine σ) : Host σ where
  isDirectory := m.isDirectory
  start := m.start

end Machine

end Provisioning
