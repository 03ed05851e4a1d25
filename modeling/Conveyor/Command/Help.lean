import Conveyor.Command

namespace Conveyor.Command.Topic

def programHelp : List String :=
  ["Blockchain workflow engine CLI", "", "Usage: chainflow <COMMAND>", "", "Commands:",
    "  run       Execute a workflow file",
    "  validate  Validate a workflow file without running it",
    "  nodes     List available node types",
    "  init      Create a new example workflow",
    "  help      Print this message or the help of the given subcommand(s)", "", "Options:",
    "  -h, --help  Print help"]

def runHelp : List String :=
  ["Execute a workflow file", "", "Usage: chainflow run [OPTIONS] --file <FILE>", "", "Options:",
    "  -f, --file <FILE>      Path to workflow JSON file",
    "  -i, --input <INPUT>    Trigger items as a JSON object or array of objects",
    "  -c, --config <CONFIG>  Runtime configuration JSON file",
    "  -v, --verbose          Show verbose output",
    "  -h, --help             Print help"]

def validateHelp : List String :=
  ["Validate a workflow file without running it", "", "Usage: chainflow validate <FILE>", "",
    "Arguments:", "  <FILE>  Path to workflow JSON file", "", "Options:", "  -h, --help  Print help"]

def nodesHelp : List String :=
  ["List available node types", "", "Usage: chainflow nodes", "", "Options:",
    "  -h, --help  Print help"]

def initHelp : List String :=
  ["Create a new example workflow", "", "Usage: chainflow init [OPTIONS]", "", "Options:",
    "  -o, --output <OUTPUT>  Output file path [default: workflow.json]",
    "  -h, --help             Print help"]

def helpHelp : List String :=
  ["Print this message or the help of the given subcommand(s)", "",
    "Usage: chainflow help [COMMAND]...", "", "Arguments:",
    "  [COMMAND]...  Print help for the subcommand(s)"]

/-- What help prints, line by line. -/
def lines : Topic → List String
  | program => programHelp
  | run => runHelp
  | validate => validateHelp
  | nodes => nodesHelp
  | init => initHelp
  | help => helpHelp

end Conveyor.Command.Topic
