import Provisioning.Handover
import Provisioning.Log.Filter
import Provisioning.Log.Line
import Provisioning.Program

/-! # The command line

Sees what the machine holds, makes one call of the program and tells what comes of it: events on
standard error, everything else on standard output. Each command is printed as a line for a shell; how
it ended is read from standard input before the next one is printed. Whether a file may be executed is
asked in the same way, before the call. -/
namespace Provisioning.Main

/-- Prints a line for a shell and reads how it ended. -/
def ask (line : String) : IO Reply := do
  let output ← IO.getStdout
  output.putStrLn line
  output.flush
  return Handover.answer (← (← IO.getStdin).getLine)

/-- A file with what it holds. -/
def readable (path : Path) : IO Entry := do
  let content ← IO.FS.readBinFile path.display
  return .file content.toList false

/-- A file that may be executed, if a shell says so. -/
def executable (path : Path) : IO Entry := do
  match ← ask (Shell.join ["test", "-x", path.display]) with
  | .ok status => return .file [] status.isSuccess
  | .error _ => return .file [] false

/-- What stands at a path, with what is to be known of a file there. -/
def look (file : Path → IO Entry) (path : Path) : IO (Option Entry) := do
  let place := (← IO.currentDir) / path.display
  if ← place.isDir then return some .directory
  if ← place.pathExists then return some (← file path)
  return none

/-- A file tree with what stands at a path. -/
def see (here : Location) (file : Path → IO Entry) (files : FileTree) (path : Path) :
    IO FileTree := do
  match ← look file path with
  | some .directory => return files.makeDirectory here path
  | some (.file content executable) => return files.writeFile here path content executable
  | none => return files

/-- The files in which the programs of a plan may be found, seen from each of some directories. -/
def programFiles (home : Option Path) (places : List Path) (searchPath : SearchPath) : List Path :=
  (places.flatMap fun place => searchPath.elements.flatMap fun element =>
    ["gcloud", "bq", "bqschemaupdater"].map (SearchPath.candidate home place element)).eraseDups

/-- The directories in which the commands of a plan run. -/
def directories (m : Machine Handover) (h : Handover) (words : List Word) : List Path :=
  match (Options.parse words).toOption.map (Program.plan m h) with
  | some (.ok plan) => plan.steps.filterMap (·.command.directory)
  | _ => []

/-- What is said here of a text that is no configuration: only the reason, not the place. -/
def account (_ : List Char) : Layout.Malformed → String
  | .document => "TOML parse error"
  | .entry mismatch => mismatch.message

/-- Makes one call again and again, each time with one answer more. -/
partial def converse (call : List Reply → Performance Handover) (filter : Log.Filter)
    (answers : List Reply) (told : Nat) : IO UInt32 := do
  let p := call answers
  for e in (p.events.drop told).filter filter.admits do
    IO.eprintln (Log.line e)
  match p.final.waiting with
  | none =>
    IO.print (p.ending.text account)
    return UInt32.ofNat p.ending.exitCode
  | some command =>
    let answer ← ask (Handover.request command)
    converse call filter (answers ++ [answer]) p.events.length

/-- Sees what the machine holds and makes one call. -/
def run (args : List String) : IO UInt32 := do
  let words := args.map Options.word
  let here := Path.ofString (toString (← IO.currentDir))
  let directory := FileTree.locate [] here
  let home := (← IO.getEnv "HOME").map Path.ofString
  let searchPath := (← IO.getEnv "PATH").map fun p => SearchPath.mk (Path.ofString p).octets
  let m := Handover.machine directory home searchPath
  let configuration := (Options.parse words).toOption.bind (·.configuration)
  let files := FileTree.addDirectory {} directory
  let files ← configuration.toList.foldlM (see directory readable) files
  let inside := directories m ⟨files, [], none⟩ words
  let files ← inside.foldlM (see directory fun _ => return .file [] false) files
  let places := here :: inside.map (SearchPath.seenFrom here)
  let programs := match Options.parse words with
    | .error .help | .error .version => []
    | _ => (searchPath.map (programFiles home places)).getD []
  let files ← programs.foldlM (see directory executable) files
  let filter := Log.Filter.ofSetting (← IO.getEnv "RUST_LOG")
  let call answers :=
    Program.call m ⟨files, answers, none⟩ (Path.ofString Options.programName) words
  converse call filter [] 0

end Provisioning.Main

/-- Runs the program on the arguments of the command line. -/
def main (args : List String) : IO UInt32 :=
  Provisioning.Main.run args
