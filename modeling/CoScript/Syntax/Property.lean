import CoScript.Syntax.Node

/-!
Names of properties that can be told without running the script.
-/
namespace CoScript.Node

/-- The property that an access reads or writes: a name after a point or a string in brackets. Other
keys are known only when the script runs, and private names have no name outside. -/
def staticName? : Node → Option Text
  | member _ _ (identifier _ name) false _ => some name
  | member _ _ (string _ value _) true _ => some value
  | _ => none

/-- Whether a node is an access to the property with a name. -/
def accesses (n : Node) (name : Text) : Bool :=
  n.staticName? == some name

end CoScript.Node
