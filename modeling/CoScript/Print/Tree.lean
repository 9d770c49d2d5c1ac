import CoScript.Print.Doc
import CoScript.Print.Grouping
import CoScript.Token.StringLiteral

/-!
Printing trees. Every node has one way to be printed; what differs from place to place is what is said
when the node is missing and whether it needs parentheses there, and that is decided where the node is
used.
-/
namespace CoScript.Print

/-- A node together with how it is printed. -/
structure Piece where
  node : Node
  doc : Doc

namespace Piece

/-- The node, which has to be there. -/
def required (role : Role) (p : Piece) : Doc :=
  if p.node.isPresent then p.doc else .fail (.missing role)

/-- The node with something in front, if it is there. -/
def optional (before : String) (p : Piece) (print : Piece → Doc) : Doc :=
  .when p.node.isPresent (before ++ print p)

/-- An expression in a place for expressions of at least some binding strength. Weaker ones, and tests
with `in` where those are not admitted, are put in parentheses. -/
def atLevel (level : Nat) (p : Piece) : Doc :=
  let parenthesized := Doc.enclosed "(" p.doc ")"
  if !p.node.isPresent then .fail (.missing .expression)
  else if p.node.level < level then parenthesized
  else if p.node.isInTest then .ifNoIn parenthesized p.doc
  else p.doc

/-- An expression in a place that any expression fits. -/
def anyLevel (p : Piece) : Doc :=
  p.atLevel Level.lowest

/-- An expression in a place where a comma would separate it from the next one. -/
def element (p : Piece) : Doc :=
  p.atLevel Level.assignment

/-- An expression, in parentheses if some condition holds. -/
def parenthesizedIf (condition : Bool) (p : Piece) (otherwise : Doc) : Doc :=
  if condition then "(" ++ p.anyLevel ++ ")" else otherwise

/-- The name of a property. -/
def key (computed : Bool) (p : Piece) : Doc :=
  if computed then "[" ++ p.element ++ "]" else p.atLevel Level.atom

/-- A type. -/
def type (p : Piece) : Doc :=
  p.required .type

/-- A type annotation, if it is there. -/
def typed (p : Piece) : Doc :=
  p.optional ": " type

/-- A type that an operator on types applies to. -/
def typeOperand (inParens : Node → Bool) (p : Piece) : Doc :=
  if inParens p.node then "(" ++ p.type ++ ")" else p.type

/-- A value after an equals sign, if it is there. -/
def initializer (p : Piece) : Doc :=
  p.optional " = " element

/-- The head of a loop over properties or elements, or the first clause of a loop. -/
def loopHead (p : Piece) : Doc :=
  match p.node with
  | .declaration _ _ _ => p.doc
  | n =>
    if n.isExpression then p.parenthesizedIf n.startsWithBrace p.anyLevel
    else .fail (.badLoopHead n) n.token

/-- The name of a type. -/
def typeName (p : Piece) : Doc :=
  match p.node with
  | .absent => .fail (.missing .typeName)
  | .identifier _ _ | .qualifiedName _ _ _ => p.doc
  | n => .fail (.badTypeName n) n.token

/-- The body of an arrow function that starts at a token. -/
def arrowBody (t : Token) (p : Piece) : Doc :=
  match p.node with
  | .block _ _ => p.doc
  | n =>
    if n.isExpression then p.parenthesizedIf n.startsWithBrace p.element
    else .fail .noArrowBody t

/-- The value of a method that starts at a token. -/
def methodBody (t : Token) (key : Doc) (p : Piece) : Doc :=
  match p.node with
  | .function _ async _ _ _ _ => .when async "async " ++ key ++ p.doc
  | _ => .fail .noMethod t

/-- An operand of a binary operator. -/
def binaryOperand (operator : Text) (level : Nat) (p : Piece) : Doc :=
  if p.node.mixes operator then .enclosed "(" p.anyLevel ")" else p.atLevel level

/-- What an assignment assigns to. -/
def target (p : Piece) : Doc :=
  p.atLevel (if p.node.isDestructuring then Level.lowest else Level.suffix)

/-- What a property is taken from. A number that would take the point for its own is put in
parentheses. -/
def object (computed : Bool) (p : Piece) : Doc :=
  if !computed && p.node.takesPoint then "(" ++ p.doc ++ ")" else p.atLevel Level.call

end Piece

/-- Elements of an array with commas between them. A hole at the end needs a comma of its own. -/
def elementList (print : Piece → Doc) : List Piece → Doc
  | [] => .empty
  | [p] => if p.node.isPresent then print p else ","
  | p :: ps => .when p.node.isPresent (print p) ++ ", " ++ elementList print ps

/-- Lines in braces, each with a margin in front and an ending; nothing between the braces if there
are none. -/
def braced (indent margin : Text) (ending : String) (lines : List Doc) : Doc :=
  if lines.isEmpty then "\x7b\x7d"
  else "\x7b\n" ++ .concat (lines.map fun line => (margin ++ indent : Text) ++ line ++ (ending ++ "\n"))
    ++ margin ++ "\x7d"

/-- Parameters in parentheses and the type of the result. -/
def signature (parameters : List Piece) (returnType : Piece) : Doc :=
  .enclosed "(" (.join ", " (parameters.map (·.required .parameter))) ")" ++ returnType.typed

/-- Arguments in parentheses. -/
def argumentList (arguments : List Piece) : Doc :=
  .enclosed "(" (.join ", " (arguments.map (·.element))) ")"

/-- The chunks of a template with the substitutions between them. -/
def interleave : List Text → List Piece → Doc
  | [], _ => .empty
  | chunk :: chunks, [] => chunk ++ interleave chunks []
  | chunk :: chunks, p :: ps => chunk ++ "$\x7b" ++ p.anyLevel ++ "\x7d" ++ interleave chunks ps

/-- Whether a type has to be in parentheses before brackets. -/
def groupsInArray : Node → Bool
  | .functionType _ _ _ | .unionType _ _ | .intersectionType _ _ => true
  | _ => false

/-- Whether a type has to be in parentheses in a union. -/
def groupsInUnion : Node → Bool
  | .functionType _ _ _ => true
  | _ => false

/-- Whether a type has to be in parentheses in an intersection. -/
def groupsInIntersection : Node → Bool
  | .functionType _ _ _ | .unionType _ _ => true
  | _ => false

/-- The blank between an operator and the operand after it, where one is needed. -/
def operatorGap (operator : Text) (operand : Node) : Doc :=
  let isWord := ["typeof", "void", "delete"].any fun s => txt s = operator
  let isSign := operator == txt "-" || operator == txt "+"
  .when (isWord || (isSign && operand.fuses operator)) " "

/-- Where a node stands. -/
inductive Place where
  | usual
  /-- The first part of the head of a loop. -/
  | loopHead
  /-- The value of a method of an object. -/
  | method
  deriving DecidableEq, Repr

mutual

/-- How a node is printed, with `indent` for each level of nesting and `margin` in front of the lines
after the first. In some places a node leaves out what the construct around it supplies: a declaration
its semicolon, and a function its keyword and name. -/
def piece (indent margin : Text) (place : Place) (n : Node) : Piece where
  node := n
  doc := match n with
  | .absent => .fail .noNode
  | .program body =>
    .concat ((pieces indent margin body).map fun p => margin ++ p.required .statement ++ "\n")
  | .block _ body =>
    braced indent margin "" ((pieces indent (margin ++ indent) body).map (·.required .statement))
  | .expressionStatement _ e =>
    let p := piece indent margin .usual e
    p.parenthesizedIf e.startsLikeStatement p.anyLevel ++ ";"
  | .declaration _ keyword ds =>
    keyword ++ " " ++ .join ", " ((pieces indent margin ds).map (·.required .declarator)) ++
      .when (place != .loopHead) ";"
  | .declarator _ target definite type value =>
    (piece indent margin .usual target).required .binding ++ .when definite "!" ++
      (piece indent margin .usual type).typed ++ (piece indent margin .usual value).initializer
  | .functionDeclaration _ f => (piece indent margin .usual f).required .function
  | .interfaceDeclaration _ name bases members =>
    "interface " ++ (piece indent margin .usual name).required .identifier ++
      .when (!bases.isEmpty) " extends " ++
      .join ", " ((pieces indent margin bases).map (·.type)) ++ " " ++
      braced indent margin ";"
        ((pieces indent (margin ++ indent) members).map (·.required .member))
  | .typeAlias _ name type =>
    "type " ++ (piece indent margin .usual name).required .identifier ++ " = " ++
      (piece indent margin .usual type).type ++ ";"
  | .ifStatement _ c a b =>
    "if (" ++ (piece indent margin .usual c).anyLevel ++ ") " ++
      (if b.isPresent && a.endsInOpenIf then
        braced indent margin "" [(piece indent (margin ++ indent) .usual a).required .statement]
      else (piece indent margin .usual a).required .statement) ++
      (piece indent margin .usual b).optional " else " (·.required .statement)
  | .forStatement _ init c u body =>
    "for (" ++ .when init.isPresent (.inHead (piece indent margin .loopHead init).loopHead) ++ ";" ++
      (piece indent margin .usual c).optional " " (·.anyLevel) ++ ";" ++
      (piece indent margin .usual u).optional " " (·.anyLevel) ++ ") " ++
      (piece indent margin .usual body).required .statement
  | .forIn _ left right body =>
    "for (" ++ (piece indent margin .loopHead left).loopHead ++ " in " ++
      (piece indent margin .usual right).anyLevel ++ ") " ++
      (piece indent margin .usual body).required .statement
  | .forOf _ awaits left right body =>
    "for " ++ .when awaits "await " ++ "(" ++ (piece indent margin .loopHead left).loopHead ++ " of " ++
      (piece indent margin .usual right).element ++ ") " ++
      (piece indent margin .usual body).required .statement
  | .whileStatement _ c body =>
    "while (" ++ (piece indent margin .usual c).anyLevel ++ ") " ++
      (piece indent margin .usual body).required .statement
  | .doWhile _ body c =>
    "do " ++ (piece indent margin .usual body).required .statement ++ " while (" ++
      (piece indent margin .usual c).anyLevel ++ ");"
  | .returnStatement _ v => "return" ++ (piece indent margin .usual v).optional " " (·.anyLevel) ++ ";"
  | .breakStatement _ l => "break" ++ (piece indent margin .usual l).optional " " (·.doc) ++ ";"
  | .continueStatement _ l => "continue" ++ (piece indent margin .usual l).optional " " (·.doc) ++ ";"
  | .throwStatement _ v => "throw " ++ (piece indent margin .usual v).anyLevel ++ ";"
  | .tryStatement _ b h f =>
    "try " ++ (piece indent margin .usual b).required .block ++
      (piece indent margin .usual h).optional " " (·.doc) ++
      (piece indent margin .usual f).optional " finally " (·.required .block)
  | .catchClause _ p type body =>
    "catch " ++ .when p.isPresent ("(" ++ (piece indent margin .usual p).required .binding ++
      (piece indent margin .usual type).typed ++ ") ") ++
      (piece indent margin .usual body).required .block
  | .switchStatement _ d cases =>
    "switch (" ++ (piece indent margin .usual d).anyLevel ++ ") \x7b\n" ++
      .concat ((pieces indent (margin ++ indent) cases).map fun p =>
        (margin ++ indent : Text) ++ p.doc ++ "\n") ++ margin ++ "\x7d"
  | .switchCase _ test body =>
    (if test.isPresent then "case " ++ (piece indent margin .usual test).anyLevel ++ ":"
    else "default:") ++
      .concat ((pieces indent (margin ++ indent) body).map fun p =>
        "\n" ++ (margin ++ indent : Text) ++ p.required .statement)
  | .labeled _ l body =>
    (piece indent margin .usual l).required .identifier ++ ": " ++
      (piece indent margin .usual body).required .statement
  | .emptyStatement _ => ";"
  | .identifier _ name => name
  | .privateName _ name => "#" ++ name
  | .number _ raw => raw
  | .string _ value raw => if raw.isEmpty then StringLiteral.quote value else raw
  | .boolean _ value => if value then "true" else "false"
  | .null _ => "null"
  | .regex _ pattern flags => "/" ++ pattern ++ "/" ++ flags
  | .template _ chunks es =>
    .enclosed "`" (interleave chunks (pieces indent margin es)) "`"
  | .this _ => "this"
  | .array _ es => .enclosed "[" (elementList (·.element) (pieces indent margin es)) "]"
  | .object _ ps =>
    if ps.isEmpty then "\x7b\x7d"
    else if Node.isSpread ps then
      .enclosed "" (braced indent margin ","
        ((pieces indent (margin ++ indent) ps).map (·.required .property))) ""
    else .enclosed "\x7b " (.join ", " ((pieces indent margin ps).map (·.required .property))) " \x7d"
  | .property t key computed value shorthand method =>
    let k := (piece indent margin .usual key).key computed
    if !key.isPresent || shorthand then (piece indent margin .usual value).element
    else if method then (piece indent margin .method value).methodBody t k
    else k ++ ": " ++ (piece indent margin .usual value).element
  | .spread _ e => "..." ++ (piece indent margin .usual e).element
  | .parameter _ target optional rest type default =>
    .when rest "..." ++ (piece indent margin .usual target).required .binding ++ .when optional "?" ++
      (piece indent margin .usual type).typed ++ (piece indent margin .usual default).initializer
  | .function _ async name ps r body =>
    .when (place != .method) (.when async "async " ++ "function" ++
      (piece indent margin .usual name).optional " " (·.doc)) ++
      signature (pieces indent margin ps) (piece indent margin .usual r) ++ " " ++
      (piece indent margin .usual body).required .block
  | .arrow t async ps r body =>
    .when async "async " ++ signature (pieces indent margin ps) (piece indent margin .usual r) ++
      " => " ++ (piece indent margin .usual body).arrowBody t
  | .taggedTemplate t tag template =>
    (piece indent margin .usual tag).atLevel Level.call ++
      (if template.isPresent then (piece indent margin .usual template).doc else .fail .noTemplate t)
  | .call _ f args optional =>
    (piece indent margin .usual f).atLevel Level.call ++ .when optional "?." ++
      argumentList (pieces indent margin args)
  | .new _ f args =>
    let p := piece indent margin .usual f
    "new " ++ p.parenthesizedIf f.callsOnTheWay (p.atLevel Level.member) ++
      argumentList (pieces indent margin args)
  | .member _ o p computed optional =>
    (piece indent margin .usual o).object computed ++
      (if computed then
        .when optional "?." ++ .enclosed "[" (piece indent margin .usual p).anyLevel "]"
      else (if optional then "?." else ".") ++ (piece indent margin .usual p).atLevel Level.atom)
  | .assignment _ operator target value =>
    (piece indent margin .usual target).target ++ " " ++ operator ++ " " ++
      (piece indent margin .usual value).element
  | .binary _ left operator right =>
    let level := (Level.binary? operator).getD 0
    let groupsRight := operator == txt "**"
    (piece indent margin .usual left).binaryOperand operator
        (if groupsRight then Level.suffix else level) ++ " " ++ operator ++ " " ++
      (piece indent margin .usual right).binaryOperand operator
        (if groupsRight then level else level + 1)
  | .unary _ operator e =>
    operator ++ operatorGap operator e ++ (piece indent margin .usual e).atLevel Level.unary
  | .update _ operator e before =>
    if before then operator ++ (piece indent margin .usual e).atLevel Level.unary
    else (piece indent margin .usual e).atLevel Level.suffix ++ operator
  | .conditional _ c a b =>
    (piece indent margin .usual c).atLevel (Level.conditional + 1) ++ " ? " ++
      (piece indent margin .usual a).element ++ " : " ++ (piece indent margin .usual b).element
  | .sequence _ es => .join ", " ((pieces indent margin es).map (·.element))
  | .await _ e => "await " ++ (piece indent margin .usual e).atLevel Level.unary
  | .assertion _ e type satisfies =>
    (piece indent margin .usual e).atLevel Level.relation ++
      (if satisfies then " satisfies " else " as ") ++ (piece indent margin .usual type).type
  | .nonNull _ e => (piece indent margin .usual e).atLevel Level.suffix ++ "!"
  | .arrayPattern _ es =>
    "[" ++ elementList (·.required .binding) (pieces indent margin es) ++ "]"
  | .objectPattern _ ps rest =>
    if ps.isEmpty && !rest.isPresent then "\x7b\x7d"
    else
      "\x7b " ++ .join ", " ((pieces indent margin ps).map (·.required .bindingProperty)) ++
        .when (!ps.isEmpty && rest.isPresent) ", " ++
        (piece indent margin .usual rest).optional "..." (·.required .binding) ++ " \x7d"
  | .patternProperty _ key computed value shorthand =>
    .when (!shorthand) ((piece indent margin .usual key).key computed ++ ": ") ++
      (piece indent margin .usual value).required .binding
  | .assignmentPattern _ target default =>
    (piece indent margin .usual target).required .binding ++ " = " ++
      (piece indent margin .usual default).element
  | .restElement _ target => "..." ++ (piece indent margin .usual target).required .binding
  | .propertySignature _ key computed optional readonly type =>
    .when readonly "readonly " ++ (piece indent margin .usual key).key computed ++
      .when optional "?" ++ (piece indent margin .usual type).typed
  | .methodSignature _ key computed optional ps r =>
    (piece indent margin .usual key).key computed ++ .when optional "?" ++
      signature (pieces indent margin ps) (piece indent margin .usual r)
  | .indexSignature _ readonly param keyType valueType =>
    .when readonly "readonly " ++ "[" ++ (piece indent margin .usual param).required .identifier ++
      ": " ++ (piece indent margin .usual keyType).type ++ "]: " ++
      (piece indent margin .usual valueType).type
  | .keywordType _ name => name
  | .arrayType _ e => (piece indent margin .usual e).typeOperand groupsInArray ++ "[]"
  | .unionType _ types =>
    .join " | " ((pieces indent margin types).map (·.typeOperand groupsInUnion))
  | .intersectionType _ types =>
    .join " & " ((pieces indent margin types).map (·.typeOperand groupsInIntersection))
  | .parenthesizedType _ type => "(" ++ (piece indent margin .usual type).type ++ ")"
  | .typeReference _ name args =>
    (piece indent margin .usual name).typeName ++
      .when (!args.isEmpty) ("<" ++ .join ", " ((pieces indent margin args).map (·.type)) ++ ">")
  | .qualifiedName _ left right =>
    (piece indent margin .usual left).typeName ++ "." ++
      (piece indent margin .usual right).required .identifier
  | .literalType _ e => (piece indent margin .usual e).atLevel Level.unary
  | .tupleType _ es => "[" ++ .join ", " ((pieces indent margin es).map (·.type)) ++ "]"
  | .functionType _ ps r =>
    .enclosed "(" (.join ", " ((pieces indent margin ps).map (·.required .parameter))) ")" ++
      " => " ++ (piece indent margin .usual r).type
  | .objectType _ members =>
    if members.isEmpty then "\x7b\x7d"
    else "\x7b " ++ .join "; " ((pieces indent margin members).map (·.required .member)) ++ " \x7d"

/-- How the nodes of a list are printed. -/
def pieces (indent margin : Text) : List Node → List Piece
  | [] => []
  | n :: ns => piece indent margin .usual n :: pieces indent margin ns

end

/-- The indent of a level of nesting, unless another one is asked for. -/
def defaultIndent : Text := txt "  "

end Print

open Print

namespace Node

/-- Prints any tree. A statement is printed without a line break at its end. -/
def print (n : Node) (indent : Text := defaultIndent) : Except Failure Text :=
  (piece indent [] .usual n).doc.run

/-- Prints a script, one statement on a line. -/
def printScript (program : Node) (indent : Text := defaultIndent) : Except Failure Text :=
  if program.isPresent then program.print indent else .error { fault := .noProgram }

/-- How a node is spelled when it is mentioned; nothing if it cannot be printed. -/
def spelling : Node → Text
  | boolean t _ => t.literal
  | spread _ e => txt "..." ++ e.spelling
  | restElement _ target => txt "..." ++ target.spelling
  | qualifiedName _ left right => left.spelling ++ txt "." ++ right.spelling
  | n => (n.print).toOption.getD []

/-- The literal of the first token of a node. -/
def leadingLiteral : Node → Text
  | program (first :: _) => first.token.literal
  | n => n.token.literal

end Node

end CoScript
