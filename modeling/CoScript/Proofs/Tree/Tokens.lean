import CoScript.Proofs.Tree.Shape

/-!
Trees up to the tokens they were read from.
-/
namespace CoScript.Node

mutual

/-- A tree with all tokens left out. -/
def withoutTokens : Node → Node
  | absent => absent
  | program body => program (withoutTokensAll body)
  | block _ body => block {} (withoutTokensAll body)
  | expressionStatement _ e => expressionStatement {} e.withoutTokens
  | declaration _ keyword ds => declaration {} keyword (withoutTokensAll ds)
  | declarator _ target definite type value =>
    declarator {} target.withoutTokens definite type.withoutTokens value.withoutTokens
  | functionDeclaration _ f => functionDeclaration {} f.withoutTokens
  | interfaceDeclaration _ name bases members =>
    interfaceDeclaration {} name.withoutTokens (withoutTokensAll bases) (withoutTokensAll members)
  | typeAlias _ name type => typeAlias {} name.withoutTokens type.withoutTokens
  | ifStatement _ c a b => ifStatement {} c.withoutTokens a.withoutTokens b.withoutTokens
  | forStatement _ init c u body =>
    forStatement {} init.withoutTokens c.withoutTokens u.withoutTokens body.withoutTokens
  | forIn _ left right body => forIn {} left.withoutTokens right.withoutTokens body.withoutTokens
  | forOf _ awaits left right body =>
    forOf {} awaits left.withoutTokens right.withoutTokens body.withoutTokens
  | whileStatement _ c body => whileStatement {} c.withoutTokens body.withoutTokens
  | doWhile _ body c => doWhile {} body.withoutTokens c.withoutTokens
  | returnStatement _ value => returnStatement {} value.withoutTokens
  | breakStatement _ label => breakStatement {} label.withoutTokens
  | continueStatement _ label => continueStatement {} label.withoutTokens
  | throwStatement _ value => throwStatement {} value.withoutTokens
  | tryStatement _ b handler finalizer =>
    tryStatement {} b.withoutTokens handler.withoutTokens finalizer.withoutTokens
  | catchClause _ param type body =>
    catchClause {} param.withoutTokens type.withoutTokens body.withoutTokens
  | switchStatement _ discriminant cases =>
    switchStatement {} discriminant.withoutTokens (withoutTokensAll cases)
  | switchCase _ test body => switchCase {} test.withoutTokens (withoutTokensAll body)
  | labeled _ label body => labeled {} label.withoutTokens body.withoutTokens
  | emptyStatement _ => emptyStatement {}
  | identifier _ name => identifier {} name
  | privateName _ name => privateName {} name
  | number _ raw => number {} raw
  | string _ value raw => string {} value raw
  | boolean _ value => boolean {} value
  | null _ => null {}
  | regex _ pattern flags => regex {} pattern flags
  | template _ chunks es => template {} chunks (withoutTokensAll es)
  | this _ => this {}
  | array _ es => array {} (withoutTokensAll es)
  | object _ ps => object {} (withoutTokensAll ps)
  | property _ key computed value shorthand method =>
    property {} key.withoutTokens computed value.withoutTokens shorthand method
  | spread _ e => spread {} e.withoutTokens
  | parameter _ target optional rest type default =>
    parameter {} target.withoutTokens optional rest type.withoutTokens default.withoutTokens
  | function _ async name ps r body =>
    function {} async name.withoutTokens (withoutTokensAll ps) r.withoutTokens body.withoutTokens
  | arrow _ async ps r body =>
    arrow {} async (withoutTokensAll ps) r.withoutTokens body.withoutTokens
  | taggedTemplate _ tag quasi => taggedTemplate {} tag.withoutTokens quasi.withoutTokens
  | call _ f args optional => call {} f.withoutTokens (withoutTokensAll args) optional
  | new _ f args => new {} f.withoutTokens (withoutTokensAll args)
  | member _ whole key computed optional =>
    member {} whole.withoutTokens key.withoutTokens computed optional
  | assignment _ operator target value =>
    assignment {} operator target.withoutTokens value.withoutTokens
  | binary _ left operator right => binary {} left.withoutTokens operator right.withoutTokens
  | unary _ operator e => unary {} operator e.withoutTokens
  | update _ operator e before => update {} operator e.withoutTokens before
  | conditional _ c a b => conditional {} c.withoutTokens a.withoutTokens b.withoutTokens
  | sequence _ es => sequence {} (withoutTokensAll es)
  | await _ e => await {} e.withoutTokens
  | assertion _ e type satisfies => assertion {} e.withoutTokens type.withoutTokens satisfies
  | nonNull _ e => nonNull {} e.withoutTokens
  | arrayPattern _ es => arrayPattern {} (withoutTokensAll es)
  | objectPattern _ ps rest => objectPattern {} (withoutTokensAll ps) rest.withoutTokens
  | patternProperty _ key computed value shorthand =>
    patternProperty {} key.withoutTokens computed value.withoutTokens shorthand
  | assignmentPattern _ target default =>
    assignmentPattern {} target.withoutTokens default.withoutTokens
  | restElement _ target => restElement {} target.withoutTokens
  | propertySignature _ key computed optional readonly type =>
    propertySignature {} key.withoutTokens computed optional readonly type.withoutTokens
  | methodSignature _ key computed optional ps r =>
    methodSignature {} key.withoutTokens computed optional (withoutTokensAll ps) r.withoutTokens
  | indexSignature _ readonly param keyType valueType =>
    indexSignature {} readonly param.withoutTokens keyType.withoutTokens valueType.withoutTokens
  | keywordType _ name => keywordType {} name
  | arrayType _ element => arrayType {} element.withoutTokens
  | unionType _ types => unionType {} (withoutTokensAll types)
  | intersectionType _ types => intersectionType {} (withoutTokensAll types)
  | parenthesizedType _ type => parenthesizedType {} type.withoutTokens
  | typeReference _ name args => typeReference {} name.withoutTokens (withoutTokensAll args)
  | qualifiedName _ left right => qualifiedName {} left.withoutTokens right.withoutTokens
  | literalType _ literal => literalType {} literal.withoutTokens
  | tupleType _ es => tupleType {} (withoutTokensAll es)
  | functionType _ ps r => functionType {} (withoutTokensAll ps) r.withoutTokens
  | objectType _ members => objectType {} (withoutTokensAll members)

/-- Trees with all tokens left out. -/
def withoutTokensAll : List Node → List Node
  | [] => []
  | n :: ns => n.withoutTokens :: withoutTokensAll ns

end

@[simp] theorem withoutTokensAll_eq_map (ns : List Node) :
    withoutTokensAll ns = ns.map withoutTokens := by
  induction ns with
  | nil => rfl
  | cons n ns ih => rw [withoutTokensAll, ih, List.map_cons]

/-- Trees that are the same up to tokens. -/
def Alike (m n : Node) : Prop :=
  m.withoutTokens = n.withoutTokens

theorem isAssignable_withoutTokens (n : Node) : n.withoutTokens.isAssignable = n.isAssignable := by
  fun_induction isAssignable n with
  | case1 | case2 => rfl
  | case3 t e ih => exact ih
  | case4 t e type satisfies ih => exact ih
  | case5 n noName noMember noClaim noAssertion =>
      cases n with
      | identifier => exact absurd rfl (noName _ _)
      | member => exact absurd rfl (noMember _ _ _ _ _)
      | nonNull => exact absurd rfl (noClaim _ _)
      | assertion => exact absurd rfl (noAssertion _ _ _ _)
      | _ => rfl

theorem Alike.isAssignable {m n : Node} (h : m.Alike n) : m.isAssignable = n.isAssignable := by
  rw [← isAssignable_withoutTokens m, h, isAssignable_withoutTokens n]

/-- Nodes with replaced children are alike if the replacements are. -/
theorem alike_mapPositions (f g : Position → Node → Node) (n : Node) :
    (n.mapPositions f).Alike (n.mapPositions g) ↔
      Throughout (fun p c => (f p c).Alike (g p c)) n.positions := by
  unfold Alike
  cases n
  -- One step of the recursion at the root. Its equations would be slow: there is one for each node.
  all_goals conv => lhs; lhs; whnf
  all_goals conv => lhs; rhs; whnf
  all_goals simp [positions, List.map_inj_left]

end CoScript.Node
