import CoScript.Syntax.View
import CoScript.Text.Quoted

/-!
Outlines of syntax trees: a line for each node with its place and its own data, and the nodes below it
indented under it.
-/
namespace CoScript.Node

/-- What an outline says about a part on the line of its node. Empty texts and flags that are not set
are left out. -/
def Part.note : Part → Text
  | .text label value => if value.isEmpty then [] else txt " " ++ txt label ++ txt "=" ++ .quoted value
  | .texts label values =>
    if values.isEmpty then [] else txt " " ++ txt label ++ txt "=" ++ .quotedList values
  | .flag label set => if set then txt " " ++ txt label else []
  | _ => []

/-- The line of a node. -/
def headline (n : Node) : Text :=
  let t := n.token
  let place := if t.line = 0 then []
    else txt " @" ++ .decimal t.line ++ txt ":" ++ .decimal t.column
  txt n.title ++ place ++ n.parts.flatMap Part.note

/-- The outline of a tree at a depth, under a label unless that is empty. -/
def outlineAt (depth : Nat) (label : Text) (n : Node) : Text :=
  if n.isPresent then
    Text.times depth (txt "  ") ++ (if label.isEmpty then [] else label ++ txt ": ") ++ n.headline ++
      txt "\n" ++ n.branches.attach.flatMap fun ⟨(label, c), h⟩ =>
        have := sizeOf_branch_lt h
        c.outlineAt (depth + 1) label
  else []
termination_by sizeOf n

/-- The outline of a tree. -/
def outline (n : Node) : Text :=
  n.outlineAt 0 []

end CoScript.Node
