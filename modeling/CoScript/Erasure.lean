import CoScript.Syntax.Node

/-!
Erasing types. What is left of a script is what runs: declarations of types are dropped, type tags of
bindings are cleared and assertions about types give way to what they are about.
-/
namespace CoScript.Node

/-- A statement for a place that requires one. -/
def orEmpty : Node → Node
  | absent => emptyStatement {}
  | n => n

mutual

/-- A tree without types. A statement that only declares a type is absent afterwards. -/
def eraseTypes : Node → Node
  | interfaceDeclaration _ _ _ _ | typeAlias _ _ _ => absent
  | assertion _ e _ _ => e.eraseTypes
  | nonNull _ e => e.eraseTypes
  | program body => program ((eraseTypesAll body).filter isPresent)
  | block t body => block t ((eraseTypesAll body).filter isPresent)
  | expressionStatement t e => expressionStatement t e.eraseTypes
  | declaration t keyword ds => declaration t keyword (eraseTypesAll ds)
  | declarator t target _ _ value => declarator t target.eraseTypes false absent value.eraseTypes
  | functionDeclaration t f => functionDeclaration t f.eraseTypes
  | ifStatement t c a b =>
    ifStatement t c.eraseTypes a.eraseTypes.orEmpty
      (if b.isPresent then b.eraseTypes.orEmpty else absent)
  | forStatement t init c u body =>
    forStatement t (if init.canHeadLoop then init.eraseTypes else init) c.eraseTypes u.eraseTypes
      body.eraseTypes.orEmpty
  | forIn t left right body =>
    forIn t (if left.canHeadLoop then left.eraseTypes else left) right.eraseTypes
      body.eraseTypes.orEmpty
  | forOf t awaits left right body =>
    forOf t awaits (if left.canHeadLoop then left.eraseTypes else left) right.eraseTypes
      body.eraseTypes.orEmpty
  | whileStatement t c body => whileStatement t c.eraseTypes body.eraseTypes.orEmpty
  | doWhile t body c => doWhile t body.eraseTypes.orEmpty c.eraseTypes
  | returnStatement t v => returnStatement t v.eraseTypes
  | throwStatement t v => throwStatement t v.eraseTypes
  | tryStatement t b h f => tryStatement t b.eraseTypes h.eraseTypes f.eraseTypes
  | catchClause t p _ body => catchClause t p.eraseTypes absent body.eraseTypes
  | switchStatement t d cases => switchStatement t d.eraseTypes (eraseTypesAll cases)
  | switchCase t test body => switchCase t test.eraseTypes ((eraseTypesAll body).filter isPresent)
  | labeled t l body => labeled t l body.eraseTypes.orEmpty
  | template t chunks es => template t chunks (eraseTypesAll es)
  | array t es => array t (eraseTypesAll es)
  | object t ps => object t (eraseTypesAll ps)
  | property t key computed value shorthand method =>
    property t (if computed then key.eraseTypes else key) computed value.eraseTypes shorthand method
  | spread t e => spread t e.eraseTypes
  | parameter t target _ rest _ default =>
    parameter t target.eraseTypes false rest absent default.eraseTypes
  | function t async name ps _ body => function t async name (eraseTypesAll ps) absent body.eraseTypes
  | arrow t async ps _ body =>
    arrow t async (eraseTypesAll ps) absent (if body.canEndArrow then body.eraseTypes else body)
  | taggedTemplate t tag quasi => taggedTemplate t tag.eraseTypes quasi.eraseTypes
  | call t f args optional => call t f.eraseTypes (eraseTypesAll args) optional
  | new t f args => new t f.eraseTypes (eraseTypesAll args)
  | member t o p computed optional =>
    member t o.eraseTypes (if computed then p.eraseTypes else p) computed optional
  | assignment t operator target value => assignment t operator target.eraseTypes value.eraseTypes
  | binary t left operator right => binary t left.eraseTypes operator right.eraseTypes
  | unary t operator e => unary t operator e.eraseTypes
  | update t operator e before => update t operator e.eraseTypes before
  | conditional t c a b => conditional t c.eraseTypes a.eraseTypes b.eraseTypes
  | sequence t es => sequence t (eraseTypesAll es)
  | await t e => await t e.eraseTypes
  | arrayPattern t es => arrayPattern t (eraseTypesAll es)
  | objectPattern t ps rest => objectPattern t (eraseTypesAll ps) rest.eraseTypes
  | patternProperty t key computed value shorthand =>
    patternProperty t (if computed then key.eraseTypes else key) computed value.eraseTypes shorthand
  | assignmentPattern t target default =>
    assignmentPattern t target.eraseTypes default.eraseTypes
  | restElement t target => restElement t target.eraseTypes
  | n => n

/-- Trees without types; absent ones stay where they are. -/
def eraseTypesAll : List Node → List Node
  | [] => []
  | n :: ns => n.eraseTypes :: eraseTypesAll ns

end

end CoScript.Node
