import CoScript.Cooperate.Tree
import CoScript.Erasure
import CoScript.Parse.Program
import CoScript.Print.Tree

/-!
What can be done with a script: reading it, listing the variables it declares, and turning it into a
cooperative script without types.
-/
namespace CoScript.Script

/-- What went wrong with a script at a stage. -/
structure Failure where
  stage : Diagnostic.Stage
  diagnostics : List Diagnostic

/-- The summary of a failure. -/
def Failure.summary (f : Failure) : Text :=
  match f.stage with
  | .reading => txt "parse failed"
  | .printing => txt "emit failed"

/-- The diagnostic of a complaint about a script. -/
def diagnostic (source : Source) (c : Parse.Complaint) : Diagnostic where
  stage := .reading
  position :=
    { line := c.token.line, column := c.token.column, start := c.token.start, stop := c.token.stop
      source := some source }
  message := c.fault.message

/-- Reads a script: the statements that could be made out, and what is wrong with it. -/
def read (source : Source) : Node × List Diagnostic :=
  let outcome := Parse.script source.content
  (outcome.program, outcome.complaints.map (diagnostic source))

/-- Reads a script that has nothing wrong with it. -/
def parse (source : Source) : Except Failure Node :=
  match read source with
  | (program, []) => .ok program
  | (_, diagnostics) => .error ⟨.reading, diagnostics⟩

/-- Turns a script into a cooperative one without types. -/
def transform (o : Cooperate.Options) (indent : Text) (source : Source) : Except Failure Text :=
  match parse source with
  | .error f => .error f
  | .ok program =>
    match (program.cooperate o).result.eraseTypes.printScript indent with
    | .ok text => .ok text
    | .error f => .error ⟨.printing, [f.diagnostic (some source)]⟩

/-- The variables that a script declares. -/
def declaredVariables (source : Source) : Except Failure (List Variable) :=
  (parse source).map Node.declaredVariables

/-- The file that the result for an input file is written to, unless another one is asked for: the
extension `.ts` gives way to `.js`, which otherwise is added. -/
def outputPath (input : Text) : Text :=
  match Text.before? (txt ".ts") input with
  | some (g :: base) => g :: base ++ txt ".js"
  | _ => input ++ txt ".js"

end CoScript.Script
