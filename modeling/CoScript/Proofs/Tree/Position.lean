import CoScript.Syntax.Node

/-!
Positions of syntax trees. Every node has its children in fixed positions, and a position says which
nodes it admits. A tree is well shaped when every node in it stands in a position that admits it. The
passes and the printer accept more trees than that, but only well-shaped ones come from a script, and
most of what holds of the passes holds of these.

Some positions hold values: what stands there runs. The others hold types, which never run.
-/
namespace CoScript.Node

/-- A position of a child below its node. -/
inductive Position where
  /-- A statement of a list. -/
  | statement
  /-- The one statement that a choice, a loop or a label governs. -/
  | body
  | block
  | expression
  | loopHead
  | arrowBody
  | declarator
  | parameter
  | entry
  | patternEntry
  | catchClause
  /-- The parameter of a handler. -/
  | caught
  | switchCase
  | function
  | template
  | name
  | key (computed : Bool)
  | binding
  /-- A binding that may have a default value. -/
  | boundValue
  /-- An element of an array pattern. -/
  | boundElement
  | type
  | signature
  | typeName
  /-- A position that may be empty. -/
  | optional (p : Position)
  /-- A position inside of a type. -/
  | inType (p : Position)
  deriving DecidableEq, Repr

/-- Whether a node is a block. -/
def isBlock : Node → Bool
  | .block _ _ => true
  | _ => false

/-- Whether a node declares an interface. -/
def isInterface : Node → Bool
  | .interfaceDeclaration _ _ _ _ => true
  | _ => false

/-- Whether a node is a call. -/
def isCall : Node → Bool
  | .call _ _ _ _ => true
  | _ => false

/-- Whether a node is a function that is not an arrow function. -/
def isFunction : Node → Bool
  | .function _ _ _ _ _ _ => true
  | _ => false

/-- Whether a node is a template. -/
@[reducible] def isTemplate : Node → Bool
  | .template _ _ _ => true
  | _ => false

/-- Whether a node is a name. -/
def isName : Node → Bool
  | .identifier _ _ => true
  | _ => false

/-- Whether a node is a key that is not computed. -/
def isPlainKey : Node → Bool
  | .identifier _ _ | .privateName _ _ | .string _ _ _ | .number _ _ => true
  | _ => false

/-- Whether a node takes a value apart. -/
def isPattern : Node → Bool
  | .arrayPattern _ _ | .objectPattern _ _ _ => true
  | _ => false

/-- Whether a node is a binding with a default value. -/
def hasDefault : Node → Bool
  | .assignmentPattern _ _ _ => true
  | _ => false

/-- Whether a node is the last element of an array pattern, which takes the rest. -/
def isRest : Node → Bool
  | .restElement _ _ => true
  | _ => false

/-- Whether a node is a dotted name of a type. -/
def isQualified : Node → Bool
  | .qualifiedName _ _ _ => true
  | _ => false

theorem canHeadLoop_of_isExpression {n : Node} (h : n.isExpression) : n.canHeadLoop := by
  cases n with
  | declaration => rfl
  | _ => exact h

theorem canEndArrow_of_isExpression {n : Node} (h : n.isExpression) : n.canEndArrow := by
  cases n with
  | block => rfl
  | _ => exact h

namespace Position

/-- Whether a node may stand in a position. -/
def admits : Position → Node → Bool
  | statement, n | body, n => n.category == .statement
  | block, n => n.isBlock
  | expression, n => n.isExpression
  | loopHead, n => n.canHeadLoop
  | arrowBody, n => n.canEndArrow
  | declarator, n => n.category == .declarator
  | parameter, n => n.category == .parameter
  | entry, n => n.category == .property
  | patternEntry, n => n.category == .patternProperty
  | catchClause, n => n.category == .catchClause
  | switchCase, n => n.category == .switchCase
  | function, n => n.isFunction
  | template, n => n.isTemplate
  | name, n => n.isName
  | key computed, n => if computed then n.isExpression else n.isPlainKey
  | binding, n | caught, n => n.isName || n.isPattern
  | boundValue, n => n.isName || n.isPattern || n.hasDefault
  | boundElement, n => n.isName || n.isPattern || n.hasDefault || n.isRest
  | type, n => n.category == .type
  | signature, n => n.category == .signature
  | typeName, n => n.isName || n.isQualified
  | optional p, n => !n.isPresent || p.admits n
  | inType p, n => p.admits n

/-- Whether a position may not be empty. -/
def isRequired : Position → Bool
  | optional _ => false
  | inType p => p.isRequired
  | _ => true

theorem isPresent_of_admits {p : Position} {n : Node} (required : p.isRequired) (h : p.admits n) :
    n.isPresent := by
  cases n with
  | absent =>
      induction p with
      | optional p => cases required
      | inType p ih => exact ih required h
      | key computed => cases computed <;> cases h
      | _ => cases h
  | _ => rfl

/-- Whether a node in a position is a value and not a type. A handler that takes the error apart is
left alone by every pass that deals with values, so the pattern does not count. -/
def isValue : Position → Node → Bool
  | type, _ | signature, _ | typeName, _ | inType _, _ => false
  | caught, n => !n.isPattern
  | optional p, n => p.isValue n
  | _, _ => true

section
attribute [local simp] isValue

theorem isValue_congr {m n : Node} (h : m.isPattern = n.isPattern) (p : Position) :
    p.isValue m = p.isValue n := by
  induction p with
  | caught => simp [h]
  | optional p ih => exact ih
  | _ => rfl

end

end Position

/-- Nodes in positions of the same kind. -/
def each (p : Position) (ns : List Node) : List (Position × Node) :=
  ns.map (p, ·)

/-- The children of a node with their positions, in the order in which they are written. -/
@[reducible] def positions : Node → List (Position × Node)
  | .program body | .block _ body => each .statement body
  | .expressionStatement _ e => [(.expression, e)]
  | .declaration _ _ ds => each .declarator ds
  | .declarator _ target _ t value =>
    [(.binding, target), (.optional .type, t), (.optional .expression, value)]
  | .functionDeclaration _ f => [(.function, f)]
  | .interfaceDeclaration _ n bases members =>
    (.inType .name, n) :: each .type bases ++ each .signature members
  | .typeAlias _ n t => [(.name, n), (.type, t)]
  | .ifStatement _ c a b => [(.expression, c), (.body, a), (.optional .body, b)]
  | .forStatement _ init c u b =>
    [(.optional .loopHead, init), (.optional .expression, c), (.optional .expression, u), (.body, b)]
  | .forIn _ left right b | .forOf _ _ left right b =>
    [(.loopHead, left), (.expression, right), (.body, b)]
  | .whileStatement _ c b => [(.expression, c), (.body, b)]
  | .doWhile _ b c => [(.body, b), (.expression, c)]
  | .returnStatement _ v => [(.optional .expression, v)]
  | .breakStatement _ l | .continueStatement _ l => [(.optional .name, l)]
  | .throwStatement _ v => [(.expression, v)]
  | .tryStatement _ b h f => [(.block, b), (.optional .catchClause, h), (.optional .block, f)]
  | .catchClause _ p t b => [(.optional .caught, p), (.optional .type, t), (.block, b)]
  | .switchStatement _ d cases => (.expression, d) :: each .switchCase cases
  | .switchCase _ test body => (.optional .expression, test) :: each .statement body
  | .labeled _ l b => [(.name, l), (.body, b)]
  | .template _ _ es => each .expression es
  | .array _ es => each (.optional .expression) es
  | .object _ ps => each .entry ps
  | .property _ k computed value _ method =>
    [(.optional (.key computed), k), (if method then .function else .expression, value)]
  | .spread _ e => [(.expression, e)]
  | .parameter _ target _ _ t default =>
    [(.binding, target), (.optional .type, t), (.optional .expression, default)]
  | .function _ _ n ps r b =>
    (.optional .name, n) :: each .parameter ps ++ [(.optional .type, r), (.block, b)]
  | .arrow _ _ ps r b => each .parameter ps ++ [(.optional .type, r), (.arrowBody, b)]
  | .taggedTemplate _ tag t => [(.expression, tag), (.template, t)]
  | .call _ f args _ | .new _ f args => (.expression, f) :: each .expression args
  | .member _ o p computed _ => [(.expression, o), (.key computed, p)]
  | .assignment _ _ target value => [(.expression, target), (.expression, value)]
  | .binary _ left _ right => [(.expression, left), (.expression, right)]
  | .unary _ _ e | .update _ _ e _ | .await _ e | .nonNull _ e => [(.expression, e)]
  | .conditional _ c a b => [(.expression, c), (.expression, a), (.expression, b)]
  | .sequence _ es => each .expression es
  | .assertion _ e t _ => [(.expression, e), (.type, t)]
  | .arrayPattern _ es => each (.optional .boundElement) es
  | .objectPattern _ ps rest => each .patternEntry ps ++ [(.optional .binding, rest)]
  | .patternProperty _ k computed value _ => [(.key computed, k), (.boundValue, value)]
  | .assignmentPattern _ target default => [(.binding, target), (.expression, default)]
  | .restElement _ target => [(.binding, target)]
  | .propertySignature _ k computed _ _ t => [(.inType (.key computed), k), (.optional .type, t)]
  | .methodSignature _ k computed _ ps r =>
    (.inType (.key computed), k) :: each (.inType .parameter) ps ++ [(.optional .type, r)]
  | .indexSignature _ _ param k v => [(.inType .name, param), (.type, k), (.type, v)]
  | .arrayType _ e | .parenthesizedType _ e => [(.type, e)]
  | .unionType _ ts | .intersectionType _ ts | .tupleType _ ts => each .type ts
  | .typeReference _ n args => (.typeName, n) :: each .type args
  | .qualifiedName _ left right => [(.typeName, left), (.inType .name, right)]
  | .literalType _ e => [(.inType .expression, e)]
  | .functionType _ ps r => each (.inType .parameter) ps ++ [(.type, r)]
  | .objectType _ members => each .signature members
  | .absent | .emptyStatement _ | .identifier _ _ | .privateName _ _ | .number _ _ | .string _ _ _
  | .boolean _ _ | .null _ | .regex _ _ _ | .this _ | .keywordType _ _ => []

/-- A node with each child replaced according to its position. -/
def mapPositions (f : Position → Node → Node) : Node → Node
  | .program body => .program (body.map (f .statement))
  | .block t body => .block t (body.map (f .statement))
  | .expressionStatement t e => .expressionStatement t (f .expression e)
  | .declaration t keyword ds => .declaration t keyword (ds.map (f .declarator))
  | .declarator t target definite type value =>
    .declarator t (f .binding target) definite (f (.optional .type) type)
      (f (.optional .expression) value)
  | .functionDeclaration t g => .functionDeclaration t (f .function g)
  | .interfaceDeclaration t n bases members =>
    .interfaceDeclaration t (f (.inType .name) n) (bases.map (f .type)) (members.map (f .signature))
  | .typeAlias t n type => .typeAlias t (f .name n) (f .type type)
  | .ifStatement t c a b =>
    .ifStatement t (f .expression c) (f .body a) (f (.optional .body) b)
  | .forStatement t init c u b =>
    .forStatement t (f (.optional .loopHead) init) (f (.optional .expression) c)
      (f (.optional .expression) u) (f .body b)
  | .forIn t left right b => .forIn t (f .loopHead left) (f .expression right) (f .body b)
  | .forOf t awaits left right b =>
    .forOf t awaits (f .loopHead left) (f .expression right) (f .body b)
  | .whileStatement t c b => .whileStatement t (f .expression c) (f .body b)
  | .doWhile t b c => .doWhile t (f .body b) (f .expression c)
  | .returnStatement t v => .returnStatement t (f (.optional .expression) v)
  | .breakStatement t l => .breakStatement t (f (.optional .name) l)
  | .continueStatement t l => .continueStatement t (f (.optional .name) l)
  | .throwStatement t v => .throwStatement t (f .expression v)
  | .tryStatement t b h z =>
    .tryStatement t (f .block b) (f (.optional .catchClause) h) (f (.optional .block) z)
  | .catchClause t p type b =>
    .catchClause t (f (.optional .caught) p) (f (.optional .type) type) (f .block b)
  | .switchStatement t d cases =>
    .switchStatement t (f .expression d) (cases.map (f .switchCase))
  | .switchCase t test body =>
    .switchCase t (f (.optional .expression) test) (body.map (f .statement))
  | .labeled t l b => .labeled t (f .name l) (f .body b)
  | .template t chunks es => .template t chunks (es.map (f .expression))
  | .array t es => .array t (es.map (f (.optional .expression)))
  | .object t ps => .object t (ps.map (f .entry))
  | .property t k computed value shorthand method =>
    .property t (f (.optional (.key computed)) k) computed
      (f (if method then .function else .expression) value) shorthand method
  | .spread t e => .spread t (f .expression e)
  | .parameter t target optional rest type default =>
    .parameter t (f .binding target) optional rest (f (.optional .type) type)
      (f (.optional .expression) default)
  | .function t async n ps r b =>
    .function t async (f (.optional .name) n) (ps.map (f .parameter)) (f (.optional .type) r)
      (f .block b)
  | .arrow t async ps r b =>
    .arrow t async (ps.map (f .parameter)) (f (.optional .type) r) (f .arrowBody b)
  | .taggedTemplate t tag quasi => .taggedTemplate t (f .expression tag) (f .template quasi)
  | .call t g args optional => .call t (f .expression g) (args.map (f .expression)) optional
  | .new t g args => .new t (f .expression g) (args.map (f .expression))
  | .member t o p computed optional =>
    .member t (f .expression o) (f (.key computed) p) computed optional
  | .assignment t operator target value =>
    .assignment t operator (f .expression target) (f .expression value)
  | .binary t left operator right =>
    .binary t (f .expression left) operator (f .expression right)
  | .unary t operator e => .unary t operator (f .expression e)
  | .update t operator e before => .update t operator (f .expression e) before
  | .conditional t c a b => .conditional t (f .expression c) (f .expression a) (f .expression b)
  | .sequence t es => .sequence t (es.map (f .expression))
  | .await t e => .await t (f .expression e)
  | .assertion t e type satisfies => .assertion t (f .expression e) (f .type type) satisfies
  | .nonNull t e => .nonNull t (f .expression e)
  | .arrayPattern t es => .arrayPattern t (es.map (f (.optional .boundElement)))
  | .objectPattern t ps rest =>
    .objectPattern t (ps.map (f .patternEntry)) (f (.optional .binding) rest)
  | .patternProperty t k computed value shorthand =>
    .patternProperty t (f (.key computed) k) computed (f .boundValue value) shorthand
  | .assignmentPattern t target default =>
    .assignmentPattern t (f .binding target) (f .expression default)
  | .restElement t target => .restElement t (f .binding target)
  | .propertySignature t k computed optional readonly type =>
    .propertySignature t (f (.inType (.key computed)) k) computed optional readonly
      (f (.optional .type) type)
  | .methodSignature t k computed optional ps r =>
    .methodSignature t (f (.inType (.key computed)) k) computed optional
      (ps.map (f (.inType .parameter))) (f (.optional .type) r)
  | .indexSignature t readonly param k v =>
    .indexSignature t readonly (f (.inType .name) param) (f .type k) (f .type v)
  | .arrayType t e => .arrayType t (f .type e)
  | .parenthesizedType t e => .parenthesizedType t (f .type e)
  | .unionType t ts => .unionType t (ts.map (f .type))
  | .intersectionType t ts => .intersectionType t (ts.map (f .type))
  | .tupleType t ts => .tupleType t (ts.map (f .type))
  | .typeReference t n args => .typeReference t (f .typeName n) (args.map (f .type))
  | .qualifiedName t left right =>
    .qualifiedName t (f .typeName left) (f (.inType .name) right)
  | .literalType t e => .literalType t (f (.inType .expression) e)
  | .functionType t ps r => .functionType t (ps.map (f (.inType .parameter))) (f .type r)
  | .objectType t members => .objectType t (members.map (f .signature))
  | n => n

section
attribute [local simp] positions mapPositions

theorem positions_mapPositions (f : Position → Node → Node) (n : Node) :
    (n.mapPositions f).positions = n.positions.map fun s => (s.1, f s.1 s.2) := by
  cases n <;> simp [each, Function.comp_def]

theorem mapPositions_mapPositions (f g : Position → Node → Node) (n : Node) :
    (n.mapPositions f).mapPositions g = n.mapPositions fun p c => g p (f p c) := by
  cases n <;> simp [Function.comp_def]

end

/-- Replacing the children leaves a node what it is. -/
@[simp] theorem category_mapPositions (f : Position → Node → Node) (n : Node) :
    (n.mapPositions f).category = n.category := by
  cases n <;> rfl

section
variable (f : Position → Node → Node) (n : Node)

@[simp] theorem isBlock_mapPositions : (n.mapPositions f).isBlock = n.isBlock := by
  cases n <;> rfl

@[simp] theorem isFunction_mapPositions : (n.mapPositions f).isFunction = n.isFunction := by
  cases n <;> rfl

@[simp] theorem isTemplate_mapPositions : (n.mapPositions f).isTemplate = n.isTemplate := by
  cases n <;> rfl

@[simp] theorem isName_mapPositions : (n.mapPositions f).isName = n.isName := by
  cases n <;> rfl

@[simp] theorem isPlainKey_mapPositions : (n.mapPositions f).isPlainKey = n.isPlainKey := by
  cases n <;> rfl

@[simp] theorem isPattern_mapPositions : (n.mapPositions f).isPattern = n.isPattern := by
  cases n <;> rfl

@[simp] theorem hasDefault_mapPositions : (n.mapPositions f).hasDefault = n.hasDefault := by
  cases n <;> rfl

@[simp] theorem isRest_mapPositions : (n.mapPositions f).isRest = n.isRest := by
  cases n <;> rfl

@[simp] theorem isQualified_mapPositions : (n.mapPositions f).isQualified = n.isQualified := by
  cases n <;> rfl

@[simp] theorem isPresent_mapPositions : (n.mapPositions f).isPresent = n.isPresent := by
  cases n <;> rfl

@[simp] theorem canHeadLoop_mapPositions : (n.mapPositions f).canHeadLoop = n.canHeadLoop := by
  cases n <;> rfl

@[simp] theorem canEndArrow_mapPositions : (n.mapPositions f).canEndArrow = n.canEndArrow := by
  cases n <;> rfl

attribute [local simp] Position.admits

/-- Replacing the children does not change where a node may stand. -/
@[simp] theorem admits_mapPositions (p : Position) :
    p.admits (n.mapPositions f) = p.admits n := by
  induction p with
  | optional p ih | inType p ih => simp [ih]
  | _ => simp [isExpression]

end

end CoScript.Node
