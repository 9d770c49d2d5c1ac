import CoScript.Cooperate.Options
import CoScript.Cooperate.Rule
import CoScript.Syntax.Property
import CoScript.Syntax.Variable

/-!
Making a script cooperative. Calls are waited for and receive the context, loops give way to the host
in every round, handlers pass interrupts on, writes to managed properties become calls of setters, and
interfaces declare their variables. What is below a node is done before the node, so that nothing a
rule puts in is subject to a rule again.
-/
namespace CoScript

namespace Cooperate

/-- A call of a method of the context. -/
def contextCall (o : Options) (method : String) (arguments : List Node) : Node :=
  .call {} (.member {} (path o.context) (.identifier {} (txt method)) false false) arguments false

/-- The statement with which every round of a loop begins. -/
def yieldStatement (o : Options) (t : Token) : Node :=
  .expressionStatement t (.await t (contextCall o "delay" []))

/-- The body of a loop that starts at a token: a block that gives way to the host first. -/
def loopBody (o : Options) (t : Token) (body : Node) : Logged Node := do
  Logged.note .loopYield t
  return match body with
  | .block b statements => .block b (yieldStatement o t :: statements)
  | .absent | .emptyStatement _ => .block t [yieldStatement o t]
  | statement => .block t [yieldStatement o t, statement]

/-- The statement with which a handler begins: an interrupt is thrown again. -/
def guard (o : Options) (t : Token) (name : Text) : Node :=
  .ifStatement t (.binary t (.identifier {} name) (txt "instanceof") (path o.interrupt))
    (.throwStatement t (.identifier {} name)) .absent

/-- A block with a statement in front. -/
def prepend (t : Token) (statement : Node) : Node → Node
  | .block b statements => .block b (statement :: statements)
  | _ => .block t [statement]

/-- A handler that passes interrupts on. One that takes the error apart is left alone. -/
def handler (o : Options) (t : Token) (param type body : Node) : Logged Node :=
  match param with
  | .absent => do
    Logged.note .catchGuard t
    return .catchClause t (.identifier t o.errorBinding) type
      (prepend t (guard o t o.errorBinding) body)
  | .identifier p name => do
    Logged.note .catchGuard t
    return .catchClause t (.identifier p name) type (prepend t (guard o t name) body)
  | _ => return .catchClause t param type body

/-- The call that declares a variable. -/
def declareStatement (o : Options) (t : Token) (v : Variable) : Node :=
  .expressionStatement t (contextCall o "declareVariable"
    ((v.name :: v.types).map fun s => .string {} s []))

/-- Whether a call of a function receives the context. -/
def receivesContext (o : Options) : Node → Bool
  | .identifier _ name => !o.pureCallees.contains name
  | _ => !o.bareCalleeContext

/-- A call that is waited for. -/
def awaitedCall (o : Options) (t : Token) (callee : Node) (arguments : List Node)
    (optional : Bool) : Logged Node := do
  let arguments := if receivesContext o callee then path o.context :: arguments else arguments
  Logged.note .call t
  return .await t (.call t callee arguments optional)

/-- The method that writing to a property goes through, and what it is a method of. -/
def setter? (o : Options) (name : Text) (object : Node) : Option (Node × Text) :=
  match object with
  | .member _ owner _ _ _ =>
    if object.accesses (txt "variables") then some (owner, txt "setVariable")
    else if object.accesses (txt "effects") then some (owner, txt "setEffect")
    else (o.setters.lookup name).map (object, ·)
  | _ => (o.setters.lookup name).map (object, ·)

/-- The operator that a compound assignment applies. -/
def compoundOperator? (operator : Text) : Option Text :=
  (["+", "-", "*", "/", "%", "&&", "||", "&", "|", "^", "<<", ">>", ">>>", "**", "??"].find? fun s =>
    txt s ++ txt "=" = operator).map txt

/-- The value that an assignment writes. -/
def writtenValue? (t : Token) (operator : Text) (target value : Node) : Option Node :=
  if operator = txt "=" then some value
  else (compoundOperator? operator).map fun o => .binary t target o value

/-- An assignment, by way of a setter if there is one for the property. -/
def managedAssignment (o : Options) (t : Token) (operator : Text) (target value : Node) :
    Logged Node :=
  let plain := Node.assignment t operator target value
  match target with
  | .member _ object _ _ _ =>
    match target.staticName? with
    | none => return plain
    | some name =>
      match setter? o name object, writtenValue? t operator target value with
      | some (receiver, method), some value => do
        Logged.note (.setter method) t
        return .await t (.call t (.member {} receiver (.identifier {} method) false false)
          [.string {} name [], value] false)
      | _, _ => return plain
  | _ => return plain

end Cooperate

open Cooperate

namespace Node

mutual

/-- A tree made cooperative. Types are left alone. -/
def cooperate (o : Options) : Node → Logged Node
  | program body => return program (← cooperateAll o body)
  | block t body => return block t (← cooperateAll o body)
  | expressionStatement t e => return expressionStatement t (← e.cooperate o)
  | declaration t keyword ds => return declaration t keyword (← cooperateAll o ds)
  | declarator t target definite type value =>
    return declarator t (← target.cooperate o) definite type (← value.cooperate o)
  | functionDeclaration t f => return functionDeclaration t (← f.cooperate o)
  | interfaceDeclaration t name bases members => do
    let vs := (interfaceDeclaration t name bases members).interfaceVariables
    Logged.note .interfaceVariables t
    return block t (vs.map (declareStatement o t))
  | ifStatement t c a b => return ifStatement t (← c.cooperate o) (← a.cooperate o) (← b.cooperate o)
  | forStatement t init c u body => do
    let init ← if init.canHeadLoop then init.cooperate o else pure init
    let c ← c.cooperate o
    let u ← u.cooperate o
    return forStatement t init c u (← loopBody o t (← body.cooperate o))
  | forIn t left right body => do
    let left ← if left.canHeadLoop then left.cooperate o else pure left
    let right ← right.cooperate o
    return forIn t left right (← loopBody o t (← body.cooperate o))
  | forOf t awaits left right body => do
    let left ← if left.canHeadLoop then left.cooperate o else pure left
    let right ← right.cooperate o
    return forOf t awaits left right (← loopBody o t (← body.cooperate o))
  | whileStatement t c body => do
    let c ← c.cooperate o
    return whileStatement t c (← loopBody o t (← body.cooperate o))
  | doWhile t body c => do
    let body ← loopBody o t (← body.cooperate o)
    return doWhile t body (← c.cooperate o)
  | returnStatement t v => return returnStatement t (← v.cooperate o)
  | throwStatement t v => return throwStatement t (← v.cooperate o)
  | tryStatement t b h f =>
    return tryStatement t (← b.cooperate o) (← h.cooperate o) (← f.cooperate o)
  | catchClause t p type body => do handler o t p type (← body.cooperate o)
  | switchStatement t d cases =>
    return switchStatement t (← d.cooperate o) (← cooperateAll o cases)
  | switchCase t test body => return switchCase t (← test.cooperate o) (← cooperateAll o body)
  | labeled t l body => return labeled t l (← body.cooperate o)
  | template t chunks es => return template t chunks (← cooperateAll o es)
  | array t es => return array t (← cooperateAll o es)
  | object t ps => return object t (← cooperateAll o ps)
  | property t key computed value shorthand method => do
    let key ← if computed then key.cooperate o else pure key
    return property t key computed (← value.cooperate o) shorthand method
  | spread t e => return spread t (← e.cooperate o)
  | parameter t target optional rest type default =>
    return parameter t (← target.cooperate o) optional rest type (← default.cooperate o)
  | function t _ name ps r body => do
    let ps ← cooperateAll o ps
    return function t true name ps r (← body.cooperate o)
  | arrow t _ ps r body => do
    let ps ← cooperateAll o ps
    let body ← if body.canEndArrow then body.cooperate o else pure body
    return arrow t true ps r body
  | taggedTemplate t tag quasi =>
    return taggedTemplate t (← tag.cooperate o) (← quasi.cooperate o)
  | call t f args optional => do
    let f ← f.cooperate o
    awaitedCall o t f (← cooperateAll o args) optional
  | new t f args => return new t (← f.cooperate o) (← cooperateAll o args)
  | member t whole p computed optional => do
    let whole ← whole.cooperate o
    let p ← if computed then p.cooperate o else pure p
    return member t whole p computed optional
  | assignment t operator target value => do
    let target ← target.cooperate o
    managedAssignment o t operator target (← value.cooperate o)
  | binary t left operator right =>
    return binary t (← left.cooperate o) operator (← right.cooperate o)
  | unary t operator e => return unary t operator (← e.cooperate o)
  | update t operator e before => return update t operator (← e.cooperate o) before
  | conditional t c a b => return conditional t (← c.cooperate o) (← a.cooperate o) (← b.cooperate o)
  | sequence t es => return sequence t (← cooperateAll o es)
  | await t e => return await t (← e.cooperate o)
  | assertion t e type satisfies => return assertion t (← e.cooperate o) type satisfies
  | nonNull t e => return nonNull t (← e.cooperate o)
  | arrayPattern t es => return arrayPattern t (← cooperateAll o es)
  | objectPattern t ps rest => return objectPattern t (← cooperateAll o ps) (← rest.cooperate o)
  | patternProperty t key computed value shorthand => do
    let key ← if computed then key.cooperate o else pure key
    return patternProperty t key computed (← value.cooperate o) shorthand
  | assignmentPattern t target default =>
    return assignmentPattern t (← target.cooperate o) (← default.cooperate o)
  | restElement t target => return restElement t (← target.cooperate o)
  | n => return n

/-- Trees made cooperative in turn. -/
def cooperateAll (o : Options) : List Node → Logged (List Node)
  | [] => return []
  | n :: ns => return (← n.cooperate o) :: (← cooperateAll o ns)

end

end Node

end CoScript
