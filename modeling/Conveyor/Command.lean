namespace Conveyor

/-- What the command line asks for. -/
inductive Command
  | run (file : String) (input config : Option String) (verbose : Bool)
  | validate (file : String)
  | nodes
  | init (output : String)
deriving DecidableEq

namespace Command

/-- What help is about: the program, or one of its commands. -/
inductive Topic
  | program | run | validate | nodes | init | help
deriving DecidableEq

/-- Why a command line asks for nothing. -/
inductive Refusal
  | help (topic : Topic)
  | usage
deriving DecidableEq

structure Flag where
  long : String
  short : Char
  takesValue : Bool := true
  /-- an empty value is no path -/
  isPath : Bool := false

/-- What a command takes. -/
structure Form where
  topic : Topic
  flags : List Flag := []
  operands : Nat := 0

structure Found where
  values : List (String × String) := []
  operands : List String := []

namespace Form

def run : Form :=
  { topic := .run
    flags :=
      [{ long := "file", short := 'f', isPath := true }, { long := "input", short := 'i' },
        { long := "config", short := 'c', isPath := true },
        { long := "verbose", short := 'v', takesValue := false }] }

def validate : Form := { topic := .validate, operands := 1 }

def nodes : Form := { topic := .nodes }

def init : Form :=
  { topic := .init, flags := [{ long := "output", short := 'o', isPath := true }] }

/-- An option is given at most once. -/
def add (flag : Flag) (value : String) (found : Found) : Except Refusal Found :=
  if found.values.any (·.1 = flag.long) ∨ (flag.isPath ∧ value = "") then .error .usage
  else .ok { found with values := found.values ++ [(flag.long, value)] }

/-- Operands are paths. -/
def addOperand (form : Form) (value : String) (found : Found) : Except Refusal Found :=
  if found.operands.length < form.operands ∧ value ≠ "" then
    .ok { found with operands := found.operands ++ [value] }
  else .error .usage

def addOperands (form : Form) : List String → Found → Except Refusal Found
  | [], found => .ok found
  | value :: rest, found => do form.addOperands rest (← form.addOperand value found)

/-- A lone dash is a value. -/
def isOption (arg : String) : Bool := arg.startsWith "-" && 1 < arg.length

/-- The letters behind one dash: what they set, and the option that still lacks its value. -/
def cluster (form : Form) : List Char → Found → Except Refusal (Found × Option Flag)
  | [], found => .ok (found, none)
  | c :: rest, found =>
    if c = 'h' then .error (.help form.topic)
    else
      match form.flags.find? (·.short = c) with
      | none => .error .usage
      | some flag =>
        if !flag.takesValue then do form.cluster rest (← add flag "" found)
        else
          match rest with
          | [] => .ok (found, some flag)
          | '=' :: value => do return (← add flag (String.ofList value) found, none)
          | value => do return (← add flag (String.ofList value) found, none)

/-- The name behind two dashes, and the value behind an equals sign. -/
def splitLong (cs : List Char) : String × Option String :=
  let name := cs.takeWhile (· ≠ '=')
  (String.ofList name,
    match cs.drop name.length with
    | _ :: value => some (String.ofList value)
    | [] => none)

def long (form : Form) (cs : List Char) (found : Found) : Except Refusal (Found × Option Flag) :=
  let (name, value) := splitLong cs
  if name = "help" then .error (if value.isNone then .help form.topic else .usage)
  else
    match form.flags.find? (·.long = name), value with
    | none, _ => .error .usage
    | some flag, none => if flag.takesValue then .ok (found, some flag) else do
        return (← add flag "" found, none)
    | some flag, some value =>
      if flag.takesValue then do return (← add flag value found, none) else .error .usage

def scan (form : Form) : List String → Found → Except Refusal Found
  | [], found => .ok found
  | arg :: rest, found =>
    if arg = "--" then form.addOperands rest found
    else if isOption arg then
      let read := match arg.toList with
        | '-' :: '-' :: cs => form.long cs found
        | cs => form.cluster (cs.drop 1) found
      match read with
      | .error e => .error e
      | .ok (found, none) => form.scan rest found
      | .ok (found, some flag) =>
        match rest with
        | [] => .error .usage
        | value :: rest =>
          if isOption value then .error .usage
          else
            match add flag value found with
            | .error e => .error e
            | .ok found => form.scan rest found
    else
      match form.addOperand arg found with
      | .error e => .error e
      | .ok found => form.scan rest found

end Form

def topicOf? : String → Option Topic
  | "run" => some .run
  | "validate" => some .validate
  | "nodes" => some .nodes
  | "init" => some .init
  | "help" => some .help
  | _ => none

/-- The command of a command line, without the program's name. -/
def ofArgs : List String → Except Refusal Command
  | "run" :: args => do
    let found ← Form.run.scan args {}
    match found.values.lookup "file" with
    | none => throw .usage
    | some file =>
      return .run file (found.values.lookup "input") (found.values.lookup "config")
        (found.values.lookup "verbose").isSome
  | "validate" :: args => do
    match (← Form.validate.scan args {}).operands with
    | [file] => return .validate file
    | _ => throw .usage
  | "nodes" :: args => do
    let _ ← Form.nodes.scan args {}
    return .nodes
  | "init" :: args => do
    let found ← Form.init.scan args {}
    return .init ((found.values.lookup "output").getD "workflow.json")
  | ["help"] => .error (.help .program)
  | ["help", command] => .error ((topicOf? command).elim .usage .help)
  | arg :: _ => .error (if arg = "--help" ∨ arg.startsWith "-h" then .help .program else .usage)
  | [] => .error .usage

end Command

end Conveyor
