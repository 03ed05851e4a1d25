import Conveyor.Command.Perform

namespace Conveyor.Command

/-- The system's own words for an error. -/
def reason : IO.Error → String
  | .noFileOrDirectory _ code _ => s!"No such file or directory (os error {code})"
  | .permissionDenied _ code _ => s!"Permission denied (os error {code})"
  | .inappropriateType _ code details => s!"{details} (os error {code})"
  | e => toString e

/-- The documents a command names. -/
def documents : Command → List String
  | run file _ config _ => file :: config.toList
  | validate file => [file]
  | nodes | init _ => []

def readAll : List String → IO (List (String × Except String String))
  | [] => return []
  | path :: rest => do
    let text ← (Except.ok <$> IO.FS.readFile path).toBaseIO
    let entry := match text with
      | .ok text => text
      | .error e => .error (reason e)
    return (path, entry) :: (← readAll rest)

def libraryOf (read : List (String × Except String String)) : Library := fun path =>
  (read.lookup path).getD (.error "No such file or directory (os error 2)")

/-- A random identifier, marked as such. -/
def newId : IO Uuid := do
  let n := (← IO.getRandomBytes 16).foldl (fun n b => n * 256 + b.toNat) 0
  let marked := n % (1 <<< 76) + 4 <<< 76 + n >>> 80 <<< 80
  return ⟨marked % (1 <<< 62) + 1 <<< 63 + marked >>> 64 <<< 64⟩

/-- Lets time pass, in naps of at most a day. -/
def pass (millis : Nat) : IO Unit := do
  for _ in [0 : millis / 86400000] do IO.sleep 86400000
  IO.sleep (millis % 86400000).toUInt32

/-- Performs a run in real time, telling of each event as it comes. -/
def watch (id : Uuid) (w : World) : RunWork α → IO (Ending α)
  | .done value => return .returned value
  | .panic payload => return .panicked payload
  | .ask question next =>
    match w.answer question with
    | none => return .stuck
    | some (reply, w') => do
      pass (w'.clock - w.clock)
      for happening in w.since w' do
        if let some event := happening.event? id then IO.eprintln (eventLine event)
      watch id w' (next reply)

def printAll (outcome : Outcome) : IO UInt32 := do
  outcome.stdout.forM IO.println
  outcome.stderr.forM IO.eprintln
  return outcome.code.toUInt32

def runLive (library : Library) (file : String) (input config : Option String) : IO UInt32 := do
  IO.eprintln (loadingLine file)
  match job library file input config with
  | .error message => printAll (failed message {})
  | .ok job =>
    (openingLines job.workflow).forM IO.eprintln
    let id ← newId
    match ← watch id {} (job.engine.executor.execute id job.workflow job.trigger) with
    | .returned (.ok result) =>
      printAll { stdout := [outputsText result], stderr := closingLines result }
    | .returned (.error fault) => printAll (failed fault.message {})
    | .panicked _ => return 101
    | .stuck => return 0

def writeThenPrint (outcome : Outcome) : IO UInt32 := do
  match outcome.written with
  | none => printAll outcome
  | some (path, text) =>
    match ← (IO.FS.writeFile path text).toBaseIO with
    | .ok () => printAll outcome
    | .error e => printAll (unwritten (reason e))

def start (args : List String) : IO UInt32 := do
  match ofArgs args with
  | .error refusal => printAll (refuse refusal)
  | .ok command =>
    let library := libraryOf (← readAll command.documents)
    match command with
    | .run file input config _ => runLive library file input config
    | command => writeThenPrint (command.perform library {} ⟨0⟩)

end Conveyor.Command

def main (args : List String) : IO UInt32 := Conveyor.Command.start args
