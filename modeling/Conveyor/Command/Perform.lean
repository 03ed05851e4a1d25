import Conveyor.Command.Help
import Conveyor.Command.Report
import Conveyor.Workflow.Document

namespace Conveyor.Command

/-- Where a command finds its documents, with the reason where it does not. -/
abbrev Library := String → Except String String

/-- The trigger items of a run: one object, or several in an array. -/
def triggerOf (input : String) : Except String (List Item) :=
  match Json.ofText? input with
  | none => .error "input is not valid JSON"
  | some (.obj fields) => .ok [.new (.obj fields)]
  | some (.arr items) =>
    if items.all fun item => Kind.object.accepts item then .ok (items.map Item.new)
    else .error "Input array must contain only JSON objects"
  | some _ => .error "Input must be a JSON object or an array of objects"

def sample : Workflow :=
  { id := "sol-price"
    name := some "SOL price check"
    nodes :=
      [{ id := "fetch", type := "http.request"
         parameters := Table.empty.insert "url"
           (.literal (.str "https://api.coingecko.com/api/v3/simple/price?ids=solana&vs_currencies=usd"))
         retryPolicy := some { maxAttempts := 3, delayMillis := 1000 } },
        { id := "price", type := "transform.set"
          parameters := Table.empty.insert "values"
            (.literal (.obj [("value", .str "=\x7b\x7b $json.body.solana.usd \x7d\x7d")])) },
        { id := "log", type := "debug.log"
          parameters := Table.empty.insert "label" (.literal (.str "SOL/USD")) }]
    edges :=
      [{ source := "fetch", destination := "price" }, { source := "price", destination := "log" }] }

def load (library : Library) (ofText : String → Except Fault α) (file : String) : Except String α :=
  match library file with
  | .error reason => .error (Fault.io reason).message
  | .ok text =>
    match ofText text with
    | .ok value => .ok value
    | .error fault => .error fault.message

/-- Everything a run needs, in the order in which what is missing is reported. -/
structure Job where
  workflow : Workflow
  config : Config
  trigger : Option (List Item)

def job (library : Library) (file : String) (input config : Option String) : Except String Job := do
  let workflow ← load library Workflow.ofText file
  let config ← match config with
    | some path => load library Config.ofText path
    | none => pure {}
  let trigger ← input.mapM triggerOf
  return { workflow, config, trigger }

def Job.engine (job : Job) : Engine := .new Nodes.standard job.config .none

/-- What is left of a command: its exit code, what it printed, and the file it wants written. -/
structure Outcome where
  code : Nat := 0
  stdout : List String := []
  stderr : List String := []
  written : Option (String × String) := none

def failed (message : String) (outcome : Outcome) : Outcome :=
  { outcome with code := 1, stderr := outcome.stderr ++ [errorLine message] }

/-- How a run ends that broke down or waits for good: without a word. -/
def performRun (library : Library) (w : World) (id : Uuid) (file : String)
    (input config : Option String) : Outcome :=
  let start : Outcome := { stderr := [loadingLine file] }
  match job library file input config with
  | .error message => failed message start
  | .ok job =>
    let (ending, w, _) := job.engine.execute w id job.workflow job.trigger
    let heard : Outcome :=
      { start with
        stderr := start.stderr ++ openingLines job.workflow ++ (Engine.events id w).map eventLine }
    match ending with
    | .returned (.ok result) =>
      { heard with stdout := [outputsText result], stderr := heard.stderr ++ closingLines result }
    | .returned (.error fault) => failed fault.message heard
    | .panicked _ => { heard with code := 101 }
    | .stuck => heard

def performValidate (library : Library) (file : String) : Outcome :=
  let start : Outcome := { stdout := [validatingLine file] }
  match load library Workflow.ofText file with
  | .error message => failed message start
  | .ok workflow =>
    match Executor.validate { registry := Nodes.standard } workflow with
    | .error fault => failed fault.message start
    | .ok plan => { start with stdout := start.stdout ++ validLines workflow plan }

/-- Writing is left to the caller, who knows whether it succeeds. -/
def perform (library : Library) (w : World) (id : Uuid) : Command → Outcome
  | run file input config _ => performRun library w id file input config
  | validate file => performValidate library file
  | nodes => { stdout := nodesLines Nodes.standard }
  | init output =>
    { stdout := createdLines output, written := some (output, sample.toJson.pretty 0) }

/-- A command whose file could not be written says only that. -/
def unwritten (reason : String) : Outcome := failed reason {}

/-- Help is an answer; a command line that is not understood is an error. -/
def refuse : Refusal → Outcome
  | .help topic => { stdout := topic.lines }
  | .usage => { code := 2, stderr := ["Usage: chainflow <COMMAND>"] }

end Conveyor.Command
