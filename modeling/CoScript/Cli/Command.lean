import CoScript.Batch
import CoScript.Cli.Flag
import CoScript.Cli.Listing
import CoScript.Config.File
import CoScript.Syntax.Outline
import CoScript.Text.EditDistance

/-!
The command line: what each command does, and what it prints.
-/
namespace CoScript.Cli

/-- What is printed, and how the program ends. -/
structure Outcome where
  exit : Nat := 0
  output : Text := []
  errors : Text := []
  deriving DecidableEq, Repr

/-- How the program ends when a command fails, when flags are wrong and when it is misused. -/
def Outcome.failed : Nat := 1

@[inherit_doc Outcome.failed]
def Outcome.badFlags : Nat := 2

@[inherit_doc Outcome.failed]
def Outcome.misused : Nat := 64

/-- Why a command failed. -/
inductive Failure where
  | config (u : Config.Unavailable)
  | unwritten (u : Config.Unwritten)
  | read (f : FileFault)
  | write (path : Text) (f : FileFault)
  | script (f : Script.Failure)
  | severalInputs (count : Nat)
  | outputForSeveral
  | batch (failed count : Nat)
  | noTerminal

/-- What a message says about a failure, with the end of the line. -/
def Failure.message : Failure → Text
  | config u => sentence (txt "failed to load config: " ++ u.message)
  | unwritten u => sentence u.message
  | read f => sentence f.message
  | write path f => sentence (txt "failed to write " ++ path ++ txt ": " ++ f.message)
  | script f => Diagnostic.displayAll f.diagnostics
  | severalInputs count => sentence (txt "expected at most one input file, got " ++ .decimal count)
  | outputForSeveral => sentence (txt "-o cannot be used with more than one input file")
  | batch failed count =>
    sentence (.decimal failed ++ txt " of " ++ .decimal count ++ txt " files failed")
  | noTerminal =>
    sentence (txt "could not open a new TTY: open /dev/tty: no such device or address")
where
  /-- A message on a line. -/
  sentence (t : Text) : Text := txt "Error: " ++ t ++ txt "\n"

/-- The commands. -/
inductive Command where
  | transform
  | vars
  | ast
  | play
  | init
  deriving DecidableEq, Repr

namespace Command

/-- All commands. -/
def all : List Command :=
  [transform, vars, ast, play, init]

/-- The name of a command. -/
def name : Command → Text
  | transform => txt "transform"
  | vars => txt "vars"
  | ast => txt "ast"
  | play => txt "play"
  | init => txt "init"

/-- The flag that names a configuration file. -/
def configFlag : Flag where
  name := txt "config"
  kind := .text
  help := txt "Configuration file (default: ./stoop.yaml when present)"

/-- The flags of a command, in the order of their names. -/
def flags : Command → List Flag
  | transform =>
    [configFlag,
     { name := txt "j", kind := .number
       help := txt "Parallel workers when several files are given (default: number of CPUs)" },
     { name := txt "o", kind := .text, help := txt "Output file (default: stdout)" }]
  | vars => [{ name := txt "json", kind := .switch, help := txt "Print the variables as JSON" }]
  | ast =>
    [{ configFlag with help := txt "Configuration file used with -rewritten" },
     { name := txt "rewritten", kind := .switch, help := txt "Dump the tree after the rewrite" }]
  | play => [configFlag]
  | init =>
    [{ configFlag with help := txt "File to create", usual := Config.fileName },
     { name := txt "force", kind := .switch, help := txt "Overwrite an existing file" }]

end Command

/-! What the commands do. -/

section Commands

variable {m : Type → Type} [Monad m] [Host m]

/-- A step of a command, which may fail. -/
abbrev Action (m : Type → Type) := ExceptT Failure m

/-- An action from one that has its own failures. -/
def attempt {ε α : Type} (failure : ε → Failure) (x : m (Except ε α)) : Action m α := do
  match ← liftM (n := Action m) x with
  | .ok a => return a
  | .error e => throw (failure e)

/-- An action without effects from a result. -/
def check {ε α : Type} (failure : ε → Failure) : Except ε α → Action m α
  | .ok a => return a
  | .error e => throw (failure e)

/-- The script that arguments name; without any it is the standard input. -/
def source (inputs : List Text) : Action m Source := do
  match inputs with
  | [] => return .ofStdin (← liftM (n := Action m) (Host.standardInput : m Text))
  | [path] => return .ofFile path (← attempt .read (Host.readFile path))
  | _ => throw (.severalInputs inputs.length)

/-- The settings of the configuration that a flag names. -/
def settings (a : Arguments) : Action m Batch.Settings := do
  let c ← attempt .config (Config.find (a.text "config"))
  return { options := c.options, indent := if c.indent.isEmpty then Print.defaultIndent else c.indent }

/-- What is printed about the result of a job. -/
def resultLine (r : Batch.Result) : Text :=
  match r.failure? with
  | none => txt "Wrote " ++ r.output ++ txt "\n"
  | some f =>
    r.input ++ txt ": " ++ f.message ++ txt "\n" ++
      (match f with
        | .script f => Diagnostic.displayAll f.diagnostics
        | _ => [])

/-- Transforms several files. -/
def transformFiles (s : Batch.Settings) (inputs : List Text) (workers : Int) : Action m Outcome := do
  let jobs := inputs.map fun input => { input := input : Batch.Job }
  let pool ← liftM (n := Action m)
    (Batch.run s jobs (Batch.workerCount workers 1 jobs.length) : m Batch.Pool)
  let lines := (pool.outcome jobs).flatMap resultLine
  let failed := pool.failures jobs
  if failed = 0 then return { errors := lines }
  else
    return { exit := Outcome.failed, errors := lines ++ (Failure.batch failed jobs.length).message }

/-- Transforms a script and prints or writes the result. -/
def transform (a : Arguments) : Action m Outcome := do
  let s ← settings a
  let output := a.text "o"
  if 1 < a.rest.length then
    if output.isEmpty then transformFiles s a.rest (a.number "j") else throw .outputForSeveral
  else
    let script ← source a.rest
    let code ← check .script (Script.transform s.options s.indent script)
    if output.isEmpty then return { output := code }
    else
      attempt (.write output) (Host.writeFile output code)
      return { errors := txt "Wrote " ++ output ++ txt "\n" }

/-- Lists the variables of a script. -/
def vars (a : Arguments) : Action m Outcome := do
  let script ← source a.rest
  let vs ← check .script (Script.declaredVariables script)
  return { output := if a.isOn "json" then jsonListing vs else plainListing vs }

/-- Prints the tree of a script. -/
def ast (a : Arguments) : Action m Outcome := do
  let s ← settings a
  let script ← source a.rest
  let program ← check .script (Script.parse script)
  let program := if a.isOn "rewritten" then (program.cooperate s.options).result else program
  return { output := program.outline }

/-- Starts the editor, which needs a terminal. -/
def play (a : Arguments) : Action m Outcome := do
  let _ ← settings (m := m) a
  if let [path] := a.rest then
    let _ ← attempt .read (Host.readFile path : m (Except FileFault Text))
  throw .noTerminal

/-- Writes the usual configuration to a file. -/
def init (a : Arguments) : Action m Outcome := do
  let path := a.text "config" Config.fileName
  attempt .unwritten (Config.default.write path (a.isOn "force"))
  return { output := txt "Created " ++ path ++ txt "\n" }

/-- Runs a command. -/
def Command.run : Command → Arguments → Action m Outcome
  | .transform => Cli.transform
  | .vars => Cli.vars
  | .ast => Cli.ast
  | .play => Cli.play
  | .init => Cli.init

end Commands

/-! The program. -/

/-- The version of the program. -/
def version : Text := txt "0.1.0"

/-- The help on the program. -/
def help : Text :=
  Text.join (txt "\n") (List.map txt
    ["stoop - cooperative rewrite for Scrap scripts",
     "",
     "Usage:",
     "  stoop [-v] <command> [options]",
     "",
     "Commands:",
     "  transform   Rewrite a script and print the JavaScript (stdin when no file)",
     "  vars        List the variables declared by top-level interfaces",
     "  ast         Dump the parsed tree",
     "  play        Edit a script and watch its rewrite live",
     "  init        Write a default stoop.yaml",
     "  version     Print version information",
     "  help        Show this help message",
     "",
     "Examples:",
     "  stoop transform sprite.ts",
     "  stoop transform -o sprite.js sprite.ts",
     "  stoop transform -j 4 stage.ts sprite1.ts sprite2.ts",
     "  stoop vars -json stage.ts",
     "  stoop -v transform --config stoop.yaml < sprite.ts",
     "",
     "Configuration:",
     "  By default, stoop looks for 'stoop.yaml' in the current directory.",
     "  Use --config to specify a different configuration file.",
     ""])

/-- The flags of the program itself. -/
def mainFlags : List Flag :=
  [{ name := txt "v", kind := .switch, help := txt "Log each stage to stderr" }]

/-- The words that ask for the version and for help where a command is expected. -/
def versionWords : List Text := [txt "version", txt "--version"]

@[inherit_doc versionWords]
def helpWords : List Text := [txt "help", txt "-h", txt "--help"]

/-- The words that an unknown command may have been meant to be, in order. -/
def knownWords : List Text :=
  (Command.all.map Command.name ++ [txt "version", txt "help"]).mergeSort fun a b => !Text.lexLt b a

/-- The distance from which on a word is no likely misspelling of another one. -/
def farDistance : Nat := 3

/-- The known word that is closest to an unknown one, if one is close. -/
def suggestion? (word : Text) : Option Text :=
  let closer (best? : Option Text × Nat) (known : Text) : Option Text × Nat :=
    let distance := EditDistance.distance word known
    if distance < best?.2 then (some known, distance) else best?
  (knownWords.foldl closer (none, farDistance)).1

/-- What is printed about an unknown command. -/
def unknownCommand (word : Text) : Outcome where
  exit := Outcome.misused
  errors := txt "Unknown command: " ++ word ++ txt "\n" ++
    (match suggestion? word with
      | some known => txt "Did you mean " ++ known.quoted ++ txt "?\n"
      | none => [])

/-- What is printed when flags are wrong or ask for help. -/
def flagOutcome (f : Flag.Fault) (output errors : Text) : Outcome where
  exit := if f = .help then 0 else Outcome.badFlags
  output := output
  errors := f.message ++ errors

/-- Runs the program with its arguments. -/
def run {m : Type → Type} [Monad m] [Host m] (arguments : List Text) : m Outcome := do
  match readFlags mainFlags [] arguments with
  | .error f => return flagOutcome f help []
  | .ok { rest := [], .. } => return { exit := Outcome.misused, output := help }
  | .ok { rest := word :: rest, .. } =>
    if versionWords.contains word then
      return { output := txt "stoop version " ++ version ++ txt "\n" }
    else if helpWords.contains word then return { output := help }
    else
      match Command.all.find? (·.name = word) with
      | none => return unknownCommand word
      | some command =>
        match readFlags command.flags [] rest with
        | .error f => return flagOutcome f [] (usage word command.flags)
        | .ok a =>
          match ← (command.run a).run with
          | .ok outcome => return outcome
          | .error f => return { exit := Outcome.failed, errors := f.message }

end CoScript.Cli
