import CoScript.Source

/-!
Diagnostics: what is wrong with a script, and where.
-/
namespace CoScript

/-- A place in a script. Lines and columns count from one and byte offsets from zero; line and column
zero mean that there is no place. -/
structure Position where
  line : Int := 0
  column : Int := 0
  start : Int := 0
  stop : Int := 0
  /-- The script, when it can be shown. -/
  source : Option Source := none

/-- Whether a position is no place. -/
def Position.isZero (p : Position) : Bool :=
  p.line == 0 && p.column == 0

/-- What was being done with a script. -/
inductive Diagnostic.Stage where
  | reading
  | printing
  deriving DecidableEq, Repr

/-- What messages call a stage. -/
def Diagnostic.Stage.title : Diagnostic.Stage → Text
  | reading => txt "Syntax"
  | printing => txt "Emit"

/-- A complaint about a script. -/
structure Diagnostic where
  stage : Diagnostic.Stage
  position : Position
  message : Text

namespace Diagnostic

/-- The sentence that names the complaint and where it is. Complaints about reading always have a
place. -/
def sentence (d : Diagnostic) : Text :=
  let place := txt " at " ++ .integer d.position.line ++ txt ":" ++ .integer d.position.column
  let place := if d.stage = .printing && d.position.isZero then [] else place
  d.stage.title ++ txt " Error" ++ place ++ txt ": " ++ d.message

/-- The sentences of several complaints, one on a line. -/
def sentences (ds : List Diagnostic) : Text :=
  .join (txt "\n") (ds.map sentence)

/-- The number of marks under the source line: one for each byte of the place if it lies within one
line, otherwise a single one. -/
def markWidth (p : Position) (content : Text) : Nat :=
  let bytes := content.toBytes
  let span := p.stop - p.start
  if 1 < span && p.stop ≤ bytes.length &&
      !((bytes.drop p.start.toNat).take span.toNat).contains 0x0A then span.toNat
  else 1

/-- The source line of a complaint with marks below the place. -/
def excerpt (p : Position) (s : Source) : Text :=
  match s.line? p.line with
  | none => []
  | some line =>
    let isBlank (g : Glyph) : Bool := g.holds fun c => c == '\r' || c == '\n' || c == '\t' || c == ' '
    Text.padStart 4 (.integer p.line) ++ txt " | " ++ line.dropEndWhile isBlank ++ txt "\n     | " ++
      Text.times (p.column - 1).toNat (txt " ") ++ Text.times (markWidth p s.content) (txt "^") ++
      txt "\n"

/-- A complaint as it is shown to people: where, what, and the source line. -/
def display (d : Diagnostic) : Text :=
  let p := d.position
  let header := d.stage.title ++ txt " Error"
  if p.isZero then header ++ txt ": " ++ d.message ++ txt "\n\n"
  else
    let place := .integer p.line ++ txt ":" ++ .integer p.column
    let place := match p.source with
      | some s => s.displayPath ++ txt ":" ++ place
      | none => place
    header ++ txt " at " ++ place ++ txt ": " ++ d.message ++ txt "\n" ++
      ((p.source.map (excerpt p)).getD []) ++ txt "\n"

/-- Several complaints as they are shown to people. -/
def displayAll (ds : List Diagnostic) : Text :=
  ds.flatMap display

end Diagnostic

end CoScript
