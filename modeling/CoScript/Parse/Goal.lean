import CoScript.Parse.State

/-!
What can be asked of the parser. The rules of the grammar refer to each other only through goals: a
rule is an ordinary function of an answerer for the goals below it, and the nesting is tied once, with
a bound on its depth, in `Parse.run`.
-/
namespace CoScript.Parse

/-- A phrase to parse. Unless said otherwise the phrase starts at the current token and ends with the
last token of the phrase as the current one. -/
inductive Goal where
  /-- An expression whose operators bind more tightly than a level. -/
  | expression (level : Nat)
  /-- What goes on from an operand that was read. -/
  | operators (level : Nat) (left : Node)
  /-- The elements of an array that follow the current token, and the closing bracket. -/
  | elements
  /-- One or more arguments that follow the current token. -/
  | arguments
  /-- The properties of an object that follow the current token, and the closing brace. -/
  | properties
  | statement
  /-- Statements up to the end of the input. -/
  | programItems
  /-- Statements up to a closing brace, which becomes the current token. -/
  | blockItems
  /-- Statements up to the next arm of a switch or its end. -/
  | caseItems
  /-- The arms of a switch, up to its closing brace. -/
  | cases (seenDefault : Bool)
  /-- One or more declarators that follow the current token. -/
  | declarators
  /-- A name or a pattern to bind. -/
  | binding
  /-- The elements of an array pattern that follow the current token, and the closing bracket. -/
  | patternElements
  /-- The properties of an object pattern that follow the current token, the pattern for the other
  properties, and the closing brace. -/
  | patternProperties
  /-- One or more parameters that follow the current token. -/
  | parameters
  /-- A type whose operators bind more tightly than a level. -/
  | type (level : Nat)
  /-- What goes on from a type that was read. -/
  | typeOperators (level : Nat) (left : Node)
  /-- The rest of a dotted name. -/
  | typeName (left : Node)
  /-- One or more type arguments that follow the current token. -/
  | typeArguments
  /-- The elements of a tuple type that follow the current token, and the closing bracket. -/
  | tupleElements
  /-- The members of an interface that follow the current token, and the closing brace. -/
  | members
  /-- One or more base interfaces that follow the current token. -/
  | bases

/-- What a goal gives. -/
abbrev Goal.Result : Goal → Type
  | .expression _ | .operators _ _ | .statement | .binding | .type _ | .typeOperators _ _
  | .typeName _ => Node
  | .patternProperties => List Node × Node
  | _ => List Node

/-- An answerer for goals. -/
abbrev Recur : Type :=
  (g : Goal) → Parse g.Result

/-- Fails without a complaint of its own, where one was recorded before. -/
def giveUp {α : Type} : Parse α := fun s => (none, s)

end CoScript.Parse
