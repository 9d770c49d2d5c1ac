import CoScript.Token.Basic

/-!
Syntax trees. A tree is one type: several positions admit any node at all (the head of a loop, the
body of an arrow function, the name of a type), the printer has to say what it found there, and most
passes treat all positions alike. What a script can have in which position is stated separately,
where it is needed.

A child that is not there is `absent`: a hole in an array, a missing else branch, an annotation that
was left out. Nodes made up by a pass carry the token `{}`, which stands nowhere.
-/
namespace CoScript

/-- A node of a syntax tree. -/
inductive Node where
  | absent
  | program (body : List Node)
  -- Statements.
  | block (token : Token) (body : List Node)
  | expressionStatement (token : Token) (expression : Node)
  /-- A declaration introduced by the word `keyword`. -/
  | declaration (token : Token) (keyword : Text) (declarators : List Node)
  | declarator (token : Token) (target : Node) (definite : Bool) (type value : Node)
  | functionDeclaration (token : Token) (function : Node)
  | interfaceDeclaration (token : Token) (name : Node) (bases members : List Node)
  | typeAlias (token : Token) (name type : Node)
  | ifStatement (token : Token) (condition consequence alternative : Node)
  | forStatement (token : Token) (init condition update body : Node)
  | forIn (token : Token) (left right body : Node)
  | forOf (token : Token) (awaits : Bool) (left right body : Node)
  | whileStatement (token : Token) (condition body : Node)
  | doWhile (token : Token) (body condition : Node)
  | returnStatement (token : Token) (value : Node)
  | breakStatement (token : Token) (label : Node)
  | continueStatement (token : Token) (label : Node)
  | throwStatement (token : Token) (value : Node)
  | tryStatement (token : Token) (block handler finalizer : Node)
  | catchClause (token : Token) (param type body : Node)
  | switchStatement (token : Token) (discriminant : Node) (cases : List Node)
  /-- One arm of a switch; the default arm has no test. -/
  | switchCase (token : Token) (test : Node) (body : List Node)
  | labeled (token : Token) (label body : Node)
  | emptyStatement (token : Token)
  -- Expressions.
  /-- A name, which is an expression and also a binding pattern. -/
  | identifier (token : Token) (name : Text)
  | privateName (token : Token) (name : Text)
  | number (token : Token) (raw : Text)
  /-- A string; one that was made up has no source text. -/
  | string (token : Token) (value raw : Text)
  | boolean (token : Token) (value : Bool)
  | null (token : Token)
  | regex (token : Token) (pattern flags : Text)
  | template (token : Token) (chunks : List Text) (substitutions : List Node)
  | this (token : Token)
  | array (token : Token) (elements : List Node)
  | object (token : Token) (properties : List Node)
  /-- An entry of an object; one that spreads another object has no key. -/
  | property (token : Token) (key : Node) (computed : Bool) (value : Node) (shorthand method : Bool)
  | spread (token : Token) (argument : Node)
  | parameter (token : Token) (target : Node) (optional rest : Bool) (type default : Node)
  | function (token : Token) (async : Bool) (name : Node) (parameters : List Node)
      (returnType body : Node)
  | arrow (token : Token) (async : Bool) (parameters : List Node) (returnType body : Node)
  | taggedTemplate (token : Token) (tag template : Node)
  | call (token : Token) (callee : Node) (arguments : List Node) (optional : Bool)
  | new (token : Token) (callee : Node) (arguments : List Node)
  | member (token : Token) (object property : Node) (computed optional : Bool)
  | assignment (token : Token) (operator : Text) (target value : Node)
  | binary (token : Token) (left : Node) (operator : Text) (right : Node)
  | unary (token : Token) (operator : Text) (operand : Node)
  /-- An increment or decrement, before or after its operand. -/
  | update (token : Token) (operator : Text) (operand : Node) (before : Bool)
  | conditional (token : Token) (condition consequence alternative : Node)
  | sequence (token : Token) (expressions : List Node)
  | await (token : Token) (argument : Node)
  /-- A type assertion with `as` or `satisfies`. -/
  | assertion (token : Token) (expression type : Node) (satisfies : Bool)
  | nonNull (token : Token) (expression : Node)
  -- Binding patterns.
  | arrayPattern (token : Token) (elements : List Node)
  | objectPattern (token : Token) (properties : List Node) (rest : Node)
  | patternProperty (token : Token) (key : Node) (computed : Bool) (value : Node) (shorthand : Bool)
  | assignmentPattern (token : Token) (target default : Node)
  | restElement (token : Token) (target : Node)
  -- Members of interfaces and object types.
  | propertySignature (token : Token) (key : Node) (computed optional readonly : Bool) (type : Node)
  | methodSignature (token : Token) (key : Node) (computed optional : Bool) (parameters : List Node)
      (returnType : Node)
  | indexSignature (token : Token) (readonly : Bool) (param keyType valueType : Node)
  -- Types.
  | keywordType (token : Token) (name : Text)
  | arrayType (token : Token) (element : Node)
  | unionType (token : Token) (types : List Node)
  | intersectionType (token : Token) (types : List Node)
  | parenthesizedType (token : Token) (type : Node)
  | typeReference (token : Token) (name : Node) (arguments : List Node)
  | qualifiedName (token : Token) (left right : Node)
  | literalType (token : Token) (literal : Node)
  | tupleType (token : Token) (elements : List Node)
  | functionType (token : Token) (parameters : List Node) (returnType : Node)
  | objectType (token : Token) (members : List Node)
  deriving Inhabited

namespace Node

/-- The token a node was read from; made-up nodes, programs and absent nodes have none. -/
@[reducible] def token : Node → Token
  | absent | program _ => {}
  | block t _ | expressionStatement t _ | declaration t _ _ | declarator t _ _ _ _
  | functionDeclaration t _ | interfaceDeclaration t _ _ _ | typeAlias t _ _ | ifStatement t _ _ _
  | forStatement t _ _ _ _ | forIn t _ _ _ | forOf t _ _ _ _ | whileStatement t _ _ | doWhile t _ _
  | returnStatement t _ | breakStatement t _ | continueStatement t _ | throwStatement t _
  | tryStatement t _ _ _ | catchClause t _ _ _ | switchStatement t _ _ | switchCase t _ _
  | labeled t _ _ | emptyStatement t => t
  | identifier t _ | privateName t _ | number t _ | string t _ _ | boolean t _ | null t
  | regex t _ _ | template t _ _ | this t | array t _ | object t _ | property t _ _ _ _ _
  | spread t _ | parameter t _ _ _ _ _ | function t _ _ _ _ _ | arrow t _ _ _ _
  | taggedTemplate t _ _ | call t _ _ _ | new t _ _ | member t _ _ _ _ | assignment t _ _ _
  | binary t _ _ _ | unary t _ _ | update t _ _ _ | conditional t _ _ _ | sequence t _ | await t _
  | assertion t _ _ _ | nonNull t _ => t
  | arrayPattern t _ | objectPattern t _ _ | patternProperty t _ _ _ _ | assignmentPattern t _ _
  | restElement t _ => t
  | propertySignature t _ _ _ _ _ | methodSignature t _ _ _ _ _ | indexSignature t _ _ _ _ => t
  | keywordType t _ | arrayType t _ | unionType t _ | intersectionType t _ | parenthesizedType t _
  | typeReference t _ _ | qualifiedName t _ _ | literalType t _ | tupleType t _ | functionType t _ _
  | objectType t _ => t

/-- Whether a node is there. -/
def isPresent : Node → Bool
  | absent => false
  | _ => true

/-- The sorts of nodes that positions distinguish. -/
inductive Category where
  | absent | program | statement | expression | pattern | type | signature
  | declarator | parameter | property | patternProperty | catchClause | switchCase | qualifiedName
  deriving DecidableEq, Repr

/-- The sort of a node. A name counts as an expression. -/
def category : Node → Category
  | absent => .absent
  | program _ => .program
  | block _ _ | expressionStatement _ _ | declaration _ _ _ | functionDeclaration _ _
  | interfaceDeclaration _ _ _ _ | typeAlias _ _ _ | ifStatement _ _ _ _ | forStatement _ _ _ _ _
  | forIn _ _ _ _ | forOf _ _ _ _ _ | whileStatement _ _ _ | doWhile _ _ _ | returnStatement _ _
  | breakStatement _ _ | continueStatement _ _ | throwStatement _ _ | tryStatement _ _ _ _
  | switchStatement _ _ _ | labeled _ _ _ | emptyStatement _ => .statement
  | identifier _ _ | privateName _ _ | number _ _ | string _ _ _ | boolean _ _ | null _
  | regex _ _ _ | template _ _ _ | this _ | array _ _ | object _ _ | spread _ _
  | function _ _ _ _ _ _ | arrow _ _ _ _ _ | taggedTemplate _ _ _ | call _ _ _ _ | new _ _ _
  | member _ _ _ _ _ | assignment _ _ _ _ | binary _ _ _ _ | unary _ _ _ | update _ _ _ _
  | conditional _ _ _ _ | sequence _ _ | await _ _ | assertion _ _ _ _ | nonNull _ _ => .expression
  | arrayPattern _ _ | objectPattern _ _ _ | assignmentPattern _ _ _ | restElement _ _ => .pattern
  | propertySignature _ _ _ _ _ _ | methodSignature _ _ _ _ _ _ | indexSignature _ _ _ _ _ =>
    .signature
  | keywordType _ _ | arrayType _ _ | unionType _ _ | intersectionType _ _ | parenthesizedType _ _
  | typeReference _ _ _ | literalType _ _ | tupleType _ _ | functionType _ _ _ | objectType _ _ =>
    .type
  | declarator _ _ _ _ _ => .declarator
  | parameter _ _ _ _ _ _ => .parameter
  | property _ _ _ _ _ _ => .property
  | patternProperty _ _ _ _ _ => .patternProperty
  | catchClause _ _ _ _ => .catchClause
  | switchCase _ _ _ => .switchCase
  | qualifiedName _ _ _ => .qualifiedName

/-- Whether a node is an expression. -/
def isExpression (n : Node) : Bool :=
  n.category == .expression

/-- Whether a node can stand in the head of a loop: a declaration or an expression. -/
def canHeadLoop : Node → Bool
  | declaration _ _ _ => true
  | n => n.isExpression

/-- Whether a node can be the body of an arrow function: a block or an expression. -/
def canEndArrow : Node → Bool
  | block _ _ => true
  | n => n.isExpression

/-- Whether an expression can be assigned to: a name, a property that is not reached through an
optional chain, or an assertion about one of these. -/
def isAssignable : Node → Bool
  | identifier _ _ => true
  | member _ _ _ _ optional => !optional
  | nonNull _ e => e.isAssignable
  | assertion _ e _ _ => e.isAssignable
  | _ => false

/-- Whether an expression can be assigned to by taking the value apart. -/
def isDestructuring : Node → Bool
  | array _ _ | object _ _ => true
  | _ => false

end Node

end CoScript
