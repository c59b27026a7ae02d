import Provisioning.Path
import Provisioning.SystemError

/-! # File trees

Directories and files below one root. A path is resolved name by name from the root or from some
directory, and every name on the way must lead to a directory. -/
namespace Provisioning

/-- Where something stands in a file tree: the names from the root down. -/
abbrev Location := List (List UInt8)

/-- A location as an absolute path. -/
def Location.path (l : Location) : Path :=
  if l.isEmpty then ⟨[Path.slash]⟩ else ⟨l.flatMap (Path.slash :: ·)⟩

/-- What stands at a location. -/
inductive Entry where
  | directory
  | file (content : List UInt8) (executable : Bool)
deriving DecidableEq, Repr, Inhabited

/-- Directories and files; the root is always a directory. -/
structure FileTree where
  entries : List (Location × Entry) := []
deriving DecidableEq, Repr, Inhabited

namespace FileTree

/-- What stands at a location, if anything does. -/
def find? (t : FileTree) (l : Location) : Option Entry :=
  if l.isEmpty then some .directory else t.entries.lookup l

/-- Whether a directory stands at a location. -/
def isDirectoryAt (t : FileTree) (l : Location) : Bool :=
  t.find? l == some .directory

/-- Whether a file that may be executed stands at a location. -/
def isProgramAt (t : FileTree) (l : Location) : Bool :=
  match t.find? l with
  | some (.file _ executable) => executable
  | _ => false

/-! ## Changes -/

/-- Something new at a location, in place of what stood there. -/
def put (t : FileTree) (l : Location) (e : Entry) : FileTree :=
  ⟨(l, e) :: t.entries.filter (·.1 != l)⟩

/-- A directory at a location, if nothing stands there. -/
def ensureDirectory (t : FileTree) (l : Location) : FileTree :=
  if (t.find? l).isSome then t else t.put l .directory

/-- A directory, with those above it. -/
def addDirectory (t : FileTree) (l : Location) : FileTree :=
  (List.range (l.length + 1)).foldl (fun t n => t.ensureDirectory (l.take n)) t

/-- The tree without a location and everything below it. -/
def remove (t : FileTree) (l : Location) : FileTree :=
  ⟨t.entries.filter fun e => !l.isPrefixOf e.1⟩

/-! ## Paths -/

/-- No path may be as long as this. -/
def pathLimit : Nat := 4096

/-- No name may be longer than this. -/
def nameLimit : Nat := 255

/-- One name further from where a path has led so far. -/
def step (t : FileTree) (here : Location) (name : List UInt8) : Except SystemError Location :=
  match t.find? here with
  | none => .error .noSuchFile
  | some (.file _ _) => .error .notDirectory
  | some .directory =>
    if name.isEmpty || name == Path.dot then .ok here
    else if name == Path.dotDot then .ok here.dropLast
    else if nameLimit < name.length then .error .nameTooLong
    else if (t.find? (here ++ [name])).isSome then .ok (here ++ [name])
    else .error .noSuchFile

/-- Where some names lead, one after the other. -/
def walk (t : FileTree) (start : Location) (names : List (List UInt8)) :
    Except SystemError Location :=
  names.foldlM t.step start

/-- Where a path starts, seen from a directory. -/
def base (directory : Location) (p : Path) : Location :=
  if p.isAbsolute then [] else directory

/-- Where a path leads, seen from a directory; something stands there. -/
def resolve (t : FileTree) (directory : Location) (p : Path) : Except SystemError Location :=
  if p.octets.contains 0 then .error .nulInPath
  else if p.octets.isEmpty then .error .noSuchFile
  else if pathLimit ≤ p.octets.length then .error .nameTooLong
  else t.walk (base directory p) p.names

/-- One name further, whether or not something stands there. -/
def stepTo (here : Location) (name : List UInt8) : Location :=
  if name == Path.dotDot then here.dropLast else here ++ [name]

/-- Where a path leads by its names alone, whether or not something stands there. -/
def locate (directory : Location) (p : Path) : Location :=
  p.steps.foldl stepTo (base directory p)

/-- The tree with a directory wherever some names lead, one after the other. -/
def makeWay (t : FileTree) (here : Location) : List (List UInt8) → FileTree
  | [] => t.addDirectory here
  | name :: rest => makeWay (t.addDirectory here) (stepTo here name) rest

/-- The tree with a directory where a path leads and wherever it leads through. -/
def makeDirectory (t : FileTree) (directory : Location) (p : Path) : FileTree :=
  t.makeWay (base directory p) p.steps

/-- The tree with a file where a path leads and a directory wherever it leads through. -/
def writeFile (t : FileTree) (directory : Location) (p : Path) (content : List UInt8)
    (executable : Bool) : FileTree :=
  (t.makeWay (base directory p) p.steps.dropLast).put (locate directory p)
    (.file content executable)

/-- The tree without what a path leads to, if it leads anywhere. -/
def removeAt (t : FileTree) (directory : Location) (p : Path) : FileTree :=
  match t.resolve directory p with
  | .ok l => t.remove l
  | .error _ => t

/-- The directory that a path leads to. -/
def enter (t : FileTree) (directory : Location) (p : Path) : Except SystemError Location := do
  let l ← t.resolve directory p
  if t.isDirectoryAt l then .ok l else .error .notDirectory

/-- The octets of the file that a path leads to. -/
def read (t : FileTree) (directory : Location) (p : Path) : Except SystemError (List UInt8) := do
  let l ← t.resolve directory p
  match t.find? l with
  | some (.file content _) => .ok content
  | some .directory => .error .isDirectory
  | none => .error .noSuchFile

/-- Whether a path leads to a directory. -/
def isDirectory (t : FileTree) (directory : Location) (p : Path) : Bool :=
  match t.resolve directory p with
  | .ok l => t.isDirectoryAt l
  | .error _ => false

/-- Whether a path leads to a file that may be executed. -/
def isProgram (t : FileTree) (directory : Location) (p : Path) : Bool :=
  match t.resolve directory p with
  | .ok l => t.isProgramAt l
  | .error _ => false

/-! ## Small lemmas -/

@[simp] theorem find?_root (t : FileTree) : t.find? [] = some .directory := rfl

theorem find?_put_self (t : FileTree) (l : Location) (e : Entry) (h : l ≠ []) :
    (t.put l e).find? l = some e := by
  simp [find?, put, h]

theorem step_eq_ok {t : FileTree} {here next : Location} {name : List UInt8}
    (h : t.step here name = .ok next) : t.isDirectoryAt here := by
  unfold step at h
  split at h <;> simp_all [isDirectoryAt]

end FileTree

end Provisioning
