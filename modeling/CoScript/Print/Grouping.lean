import CoScript.Syntax.Level
import CoScript.Syntax.Node

/-!
Which parts of a printed tree need parentheses or braces to be read back as they are.
-/
namespace CoScript.Node

/-- The binding strength of an expression. -/
def level : Node → Nat
  | sequence _ _ => Level.comma
  | assignment _ _ _ _ | arrow _ _ _ _ _ => Level.assignment
  | conditional _ _ _ _ => Level.conditional
  | binary _ _ operator _ => (Level.binary? operator).getD Level.lowest
  | assertion _ _ _ _ => Level.relation
  | unary _ _ _ | await _ _ => Level.unary
  | update _ _ _ before => if before then Level.unary else Level.suffix
  | call _ _ _ _ | new _ _ _ => Level.call
  | member _ _ _ _ _ | nonNull _ _ | taggedTemplate _ _ _ => Level.member
  | _ => Level.atom

/-- The innermost expression that a printed expression starts with. -/
def leftmost : Node → Node
  | call _ callee _ _ => callee.leftmost
  | member _ whole _ _ _ => whole.leftmost
  | taggedTemplate _ tag _ => tag.leftmost
  | binary _ left _ _ => left.leftmost
  | assignment _ _ target _ => target.leftmost
  | conditional _ condition _ _ => condition.leftmost
  | sequence _ (first :: _) => first.leftmost
  | update _ _ operand false => operand.leftmost
  | nonNull _ e => e.leftmost
  | assertion _ e _ _ => e.leftmost
  | n => n

/-- Whether a printed expression starts with a brace. -/
def startsWithBrace (n : Node) : Bool :=
  match n.leftmost with
  | object _ _ => true
  | _ => false

/-- Whether a printed expression starts like a block or a declaration. -/
def startsLikeStatement (n : Node) : Bool :=
  match n.leftmost with
  | object _ _ | function _ _ _ _ _ _ => true
  | _ => false

/-- Whether a statement ends in a choice without an alternative, which would take an alternative that
follows for its own. -/
def endsInOpenIf : Node → Bool
  | ifStatement _ _ _ alternative => !alternative.isPresent || alternative.endsInOpenIf
  | forStatement _ _ _ _ body | forIn _ _ _ body | forOf _ _ _ _ body | whileStatement _ _ body
  | labeled _ _ body => body.endsInOpenIf
  | _ => false

/-- Whether there is a call on the way to the innermost object, which would take the arguments of a
`new` around it for its own. -/
def callsOnTheWay : Node → Bool
  | call _ _ _ _ => true
  | member _ whole _ _ _ => whole.callsOnTheWay
  | _ => false

/-- Whether a point after a number would be read as part of it. -/
def takesPoint : Node → Bool
  | number _ raw =>
    let holds (chars : List Char) (g : Glyph) : Bool := g.holds chars.contains
    match raw with
    | [] => false
    | first :: rest =>
      !(raw.getLastD first).is 'n' &&
      !(first.is '0' && (rest.take 1).any (holds ['x', 'X', 'o', 'O', 'b', 'B'])) &&
      !raw.any (holds ['.', 'e', 'E'])
  | _ => false

/-- Whether an object has a function with a block in it and is printed on several lines. -/
def isSpread (properties : List Node) : Bool :=
  properties.any fun
    | property _ _ _ (function _ _ _ _ _ _) _ _ => true
    | property _ _ _ (arrow _ _ _ _ (block _ _)) _ _ => true
    | _ => false

/-- Whether an operand of an operator has to be in parentheses because the two may not be mixed. -/
def mixes (operator : Text) : Node → Bool
  | binary _ _ inner _ =>
    let logical (o : Text) : Bool := o == txt "&&" || o == txt "||"
    (operator == txt "??" && logical inner) || (logical operator && inner == txt "??")
  | _ => false

/-- Whether a sign in front of an operand would be read together with the sign it starts with. -/
def fuses (operator : Text) : Node → Bool
  | unary _ inner _ => inner == operator
  | update _ inner _ true => inner.take 1 == operator
  | _ => false

/-- Whether an expression is a test with the operator `in`. -/
def isInTest : Node → Bool
  | binary _ _ operator _ => operator == txt "in"
  | _ => false

end CoScript.Node
