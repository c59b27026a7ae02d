import Provisioning.Text.Quoted

/-! # Paths

A path is a sequence of octets, as the file system takes it. It is shown either lossily, as text, or
between quotes, where no two paths look alike. -/
namespace Provisioning

/-- A path: any octets, read by the file system as names between slashes. -/
structure Path where
  octets : List UInt8
deriving DecidableEq, Repr, Inhabited

namespace Path

/-- The octet of the slash between names. -/
def slash : UInt8 := 0x2F

/-- The name of the directory a name stands in. -/
def dot : List UInt8 := [0x2E]

/-- The name of the directory above. -/
def dotDot : List UInt8 := [0x2E, 0x2E]

/-- A path given as text. -/
def ofString (text : String) : Path :=
  ⟨Text.Utf8.encode text.toList⟩

/-- A path as text, with U+FFFD for what is no text. -/
def display (p : Path) : String :=
  String.ofList (Text.Utf8.decodeLossy p.octets)

/-- A path between quotes, on one line. -/
def quoted (p : Path) : String :=
  String.ofList (Text.Quoted.quoteOctets p.octets)

/-- Whether a path starts at the root directory. -/
def isAbsolute (p : Path) : Bool :=
  p.octets.head? == some slash

/-- The names between the slashes, empty ones included. -/
def names (p : Path) : List (List UInt8) :=
  p.octets.splitOn slash

/-- One name further down, with a slash in between unless one stands there already. -/
def push (p : Path) (name : List UInt8) : Path :=
  if p.octets.isEmpty || p.octets.getLast? == some slash then ⟨p.octets ++ name⟩
  else ⟨p.octets ++ slash :: name⟩

/-- Whether a name leads anywhere: an empty name and a dot do not. -/
def isStep (name : List UInt8) : Bool :=
  !name.isEmpty && name != dot

/-- The names that say where a path leads. -/
def steps (p : Path) : List (List UInt8) :=
  p.names.filter isStep

/-- The last name of a path, if it is neither the root nor a step up. -/
def fileName? (p : Path) : Option (List UInt8) :=
  p.steps.getLast?.filter (· != dotDot)

end Path

end Provisioning
