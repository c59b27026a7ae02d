import Provisioning.Layout.Decode
import Provisioning.Layout.Validation
import Provisioning.SystemError
import Provisioning.Toml.Document

/-! # Layouts from files

Reads a file, lays what it says over the standard layout and checks the result. -/
namespace Provisioning.Layout

/-- Why a text is no configuration. -/
inductive Malformed where
  /-- It is no TOML document. -/
  | document
  /-- It is one, with an entry that does not fit. -/
  | entry (mismatch : Mismatch)
deriving DecidableEq, Repr

/-- How the reader of TOML accounts for a text that is no configuration, given the text and the reason. The words
are the reader's own, with an excerpt of the text where it found the mistake. -/
abbrev Account := List Char → Malformed → String

/-- Why no layout was loaded. -/
inductive LoadError where
  | unreadable (path : Path) (cause : SystemError)
  | malformed (path : Path) (cause : Malformed)
  | invalid (reason : String)
deriving DecidableEq, Repr

namespace LoadError

/-- The error in words. -/
def message : LoadError → String
  | .unreadable path _ => "failed to read config file " ++ path.quoted
  | .malformed path _ => "failed to parse config file " ++ path.quoted
  | .invalid reason => "invalid config: " ++ reason

/-- What caused the error, in words; those for a malformed text are given. -/
def causes (account : Malformed → String) : LoadError → List String
  | .unreadable _ cause => [cause.message]
  | .malformed _ cause => [account cause]
  | .invalid _ => []

end LoadError

/-- The layout that a configuration describes, before any check. -/
def parse (text : List Char) : Except Malformed Layout :=
  match Toml.document? text with
  | none => .error .document
  | some entries => (ofEntries entries).mapError .entry

/-- A file's octets as text. -/
def textOf (octets : List UInt8) : Except SystemError (List Char) :=
  match Text.Utf8.decode? octets with
  | some text => .ok text
  | none => .error .notText

/-- The text of a file, empty if it cannot be read. -/
def document (read : Path → Except SystemError (List UInt8)) (path : Path) : List Char :=
  ((read path).bind textOf).toOption.getD []

/-- The valid layout that a file describes. -/
def load (read : Path → Except SystemError (List UInt8)) (path : Path) :
    Except LoadError Layout :=
  match (read path).bind textOf with
  | .error cause => .error (.unreadable path cause)
  | .ok text =>
    match parse text with
    | .error cause => .error (.malformed path cause)
    | .ok layout => (validate layout).mapError fun violation => .invalid violation.message

end Provisioning.Layout
