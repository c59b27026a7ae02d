import Provisioning.Options
import Provisioning.Text.Terminal

/-! # Help texts

What is printed of the program itself. -/
namespace Provisioning.Options

/-- The name of the program. -/
def programName : String := "setup-bigquery"

/-- The name the program was called by: the last name of the path it was called with, if that is
text. -/
def calledName (path : Path) : String :=
  match path.fileName?.bind Text.Utf8.decode? with
  | some name => String.ofList name
  | none => programName

/-- What the program does and which options it has. Of the name it was called by, only what a terminal
shows is printed. -/
def help (called : String) : String :=
  let name := String.ofList (Text.Terminal.shown called.toList)
  "Sets up the BigQuery dataset, tables and views that receive Swarming telemetry for one " ++
    "Cloud project\n\nUsage: " ++ name ++ " [OPTIONS] <INSTANCEID>\n\nArguments:\n" ++
    "  <INSTANCEID>  Cloud project id of the Swarming instance\n\nOptions:\n" ++
    "  -c, --config <FILE>    TOML file overriding the dataset layout\n" ++
    "      --proto-dir <DIR>  Directory holding the schema protos. Overrides `proto_dir` from " ++
    "the config file\n" ++
    "      --dry-run          Print the commands instead of running them\n" ++
    "  -h, --help             Print help\n  -V, --version          Print version\n"

/-- The version of the program. -/
def version : String :=
  programName ++ " 0.0.0\n"

/-- How the program is called. -/
def usage : String :=
  "usage: " ++ programName ++ " <instanceid>\n\n" ++
    "Pass one argument which is the instance name\n"

end Provisioning.Options
