import CoScript.Syntax.Node

/-!
The names through which a script and its host work together.
-/
namespace CoScript.Cooperate

/-- The names that a cooperating script refers to. -/
structure Options where
  /-- The runtime context that calls receive, a name or a dotted path. -/
  context : Text
  /-- The class of errors that handlers have to pass on, a name or a dotted path. -/
  interrupt : Text
  /-- The name of the error in a handler that gives it none. -/
  errorBinding : Text
  /-- Functions that do not receive the context when they are called by their name. -/
  pureCallees : List Text
  /-- The method that replaces writing to a property, for each such property. -/
  setters : List (Text × Text)
  /-- Whether only functions that are called by their name receive the context. -/
  bareCalleeContext : Bool
  deriving DecidableEq, Repr

/-- The names used unless others are chosen. -/
def Options.default : Options where
  context := txt "self"
  interrupt := txt "Scrap.StoopError"
  errorBinding := txt "__error__"
  pureCallees := [txt "String", txt "Number"]
  setters := [(txt "x", txt "setX"), (txt "y", txt "setY"), (txt "draggable", txt "setDraggable"),
    (txt "volume", txt "setVolume"), (txt "direction", txt "pointInDirection")]
  bareCalleeContext := false

/-- A choice of names in which some are left open. -/
structure Choice where
  context : Text := []
  interrupt : Text := []
  errorBinding : Text := []
  pureCallees : Option (List Text) := none
  setters : Option (List (Text × Text)) := none
  bareCalleeContext : Bool := false

/-- The names of a choice, with those left open taken from the default. -/
def Choice.options (c : Choice) : Options :=
  let orDefault (chosen usual : Text) : Text := if chosen.isEmpty then usual else chosen
  let usual := Options.default
  { context := orDefault c.context usual.context
    interrupt := orDefault c.interrupt usual.interrupt
    errorBinding := orDefault c.errorBinding usual.errorBinding
    pureCallees := c.pureCallees.getD usual.pureCallees
    setters := c.setters.getD usual.setters
    bareCalleeContext := c.bareCalleeContext }

/-- The expression that a dotted path spells. -/
def path (spelling : Text) : Node :=
  match Text.splitOn '.' spelling with
  | [] => .identifier {} []
  | first :: rest =>
    rest.foldl (fun e name => .member {} e (.identifier {} name) false false) (.identifier {} first)

end CoScript.Cooperate
