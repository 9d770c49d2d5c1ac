import CoScript.Cooperate.Options
import CoScript.Yaml.Decode
import CoScript.Yaml.Writer

/-!
Configurations: the names through which scripts and their host work together, and how results are
indented. A configuration is kept as a YAML file, in which everything may be left out.
-/
namespace CoScript

/-- A configuration. -/
structure Config where
  options : Cooperate.Options
  /-- The indentation of one level; empty means the usual one. -/
  indent : Text
  deriving DecidableEq, Repr

namespace Config

/-- The configuration used unless another one is chosen. -/
def default : Config where
  options := .default
  indent := txt "  "

/-- The file that a configuration is looked for in. -/
def fileName : Text := txt "stoop.yaml"

/-! Names. -/

/-- Whether a text is a name in ASCII. -/
def isName (t : Text) : Bool :=
  let isStart (g : Glyph) : Bool := g.holds isPlainLetter
  t.head?.any isStart && t.all fun g => isStart g || g.holds Char.isDigit

/-- Whether a text is names with dots between them. -/
def isPath (t : Text) : Bool :=
  (Text.splitOn '.' t).all isName

/-- What is wrong with a configuration. -/
inductive Problem where
  | context (path : Text)
  | interrupt (path : Text)
  | errorBinding (name : Text)
  | pureCallee (name : Text)
  | setter (property method : Text)
  | indent
  deriving DecidableEq, Repr

/-- What a message says about a problem. -/
def Problem.message : Problem → Text
  | context path => txt "context " ++ path.quoted ++ txt " is not an identifier path"
  | interrupt path => txt "interrupt " ++ path.quoted ++ txt " is not an identifier path"
  | errorBinding name => txt "error_binding " ++ name.quoted ++ txt " is not an identifier"
  | pureCallee name => txt "pure callee " ++ name.quoted ++ txt " is not an identifier"
  | setter property method =>
    txt "setter " ++ property.quoted ++ txt " -> " ++ method.quoted ++ txt " is not valid"
  | indent => txt "emit.indent must contain only spaces and tabs"

/-- The problems of a configuration. Those of setters are in the order of their messages. -/
def problems (c : Config) : List Problem :=
  let o := c.options
  let setters := (o.setters.filter fun (property, method) => property.isEmpty || !isName method).map
    fun (property, method) => Problem.setter property method
  (if isPath o.context then [] else [Problem.context o.context]) ++
    (if isPath o.interrupt then [] else [Problem.interrupt o.interrupt]) ++
    (if isName o.errorBinding then [] else [Problem.errorBinding o.errorBinding]) ++
    (o.pureCallees.filter (!isName ·)).map Problem.pureCallee ++
    setters.mergeSort (fun a b => !Text.lexLt b.message a.message) ++
    (if c.indent.all fun g => g.is ' ' || g.is '\t' then [] else [Problem.indent])

/-! Reading. -/

/-- Why a text is no configuration. -/
inductive Refusal where
  | unreadable (r : Yaml.Refusal)
  | invalid (ps : List Problem)

/-- What a message says about a refusal. -/
def Refusal.message : Refusal → Text
  | unreadable r => txt "invalid config: " ++ r.message
  | invalid ps => .join (txt "\n") (ps.map Problem.message)

/-- A configuration in which the texts by name may be left open. -/
structure Draft where
  config : Config := .default
  pureCallees : Option (List Text) := none
  setters : Option (List (Text × Text)) := none

/-- The draft with a change to its names. -/
def Draft.withOptions (d : Draft) (change : Cooperate.Options → Cooperate.Options) : Draft :=
  { d with config := { d.config with options := change d.config.options } }

/-- The configuration of a draft; what is left open is as usual. -/
def Draft.finish (d : Draft) : Config :=
  let usual := Cooperate.Options.default
  { d.config with options := { d.config.options with
    pureCallees := d.pureCallees.getD usual.pureCallees
    setters := d.setters.getD usual.setters } }

open Yaml.Decode in
/-- Reads how results are printed. -/
def readPrinting (fuel : Nat) (indent : Text) (s : Scope) (n : Yaml.Node) : Yaml.Decode Text :=
  record (txt "config.EmitConfig") fuel (fun indent e =>
    if e.name = txt "indent" then some do return (← text? e.scope e.value).getD indent
    else none) indent s n

open Yaml.Decode in
/-- Reads a field of a configuration, if there is one with that name. -/
def readField (fuel : Nat) (d : Draft) (e : Entry) : Option (Yaml.Decode Draft) :=
  let text (set : Text → Cooperate.Options → Cooperate.Options) : Option (Yaml.Decode Draft) := some do
    match ← text? e.scope e.value with
    | some t => return d.withOptions (set t)
    | none => return d
  if e.name = txt "context" then text fun t o => { o with context := t }
  else if e.name = txt "interrupt" then text fun t o => { o with interrupt := t }
  else if e.name = txt "error_binding" then text fun t o => { o with errorBinding := t }
  else if e.name = txt "pure_callees" then
    some do return { d with pureCallees := ← texts? e.scope e.value }
  else if e.name = txt "setters" then
    some do return { d with setters := ← textMap? fuel e.scope e.value }
  else if e.name = txt "bare_callee_context" then some do
    match ← flag? e.scope e.value with
    | some b => return d.withOptions fun o => { o with bareCalleeContext := b }
    | none => return d
  else if e.name = txt "emit" then some do
    let indent ← readPrinting fuel d.config.indent e.scope e.value
    return { d with config := { d.config with indent := indent } }
  else none

/-- Reads a configuration. -/
def parse (text : Text) : Except Refusal Config :=
  let draft := Yaml.decode text ({} : Draft) fun fuel s n =>
    Yaml.Decode.record (txt "config.Config") fuel (readField fuel) {} s n
  match draft with
  | .error r => .error (.unreadable r)
  | .ok d =>
    match problems d.finish with
    | [] => .ok d.finish
    | ps => .error (.invalid ps)

/-! Writing. -/

/-- The comment at the start of a configuration file. -/
def header : Text :=
  txt "# stoop configuration file\n" ++
  txt "# context: receiver of injected runtime calls\n" ++
  txt "# interrupt: error class that catch clauses always rethrow\n" ++
  txt "# setters: property name -> runtime method replacing the write\n"

/-- A configuration as it is kept in a file. -/
def render (c : Config) : Text :=
  let o := c.options
  header ++
    Yaml.Writer.field 0 (txt "context") (.text o.context) ++
    Yaml.Writer.field 0 (txt "interrupt") (.text o.interrupt) ++
    Yaml.Writer.field 0 (txt "error_binding") (.text o.errorBinding) ++
    Yaml.Writer.field 0 (txt "pure_callees") (.texts o.pureCallees) ++
    Yaml.Writer.field 0 (txt "setters") (.textMap o.setters) ++
    Yaml.Writer.field 0 (txt "bare_callee_context") (.flag o.bareCalleeContext) ++
    txt "emit:\n" ++
    Yaml.Writer.field Yaml.Writer.width (txt "indent") (.text c.indent)

end Config

end CoScript
