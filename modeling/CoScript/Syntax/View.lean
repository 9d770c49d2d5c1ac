import CoScript.Syntax.Node

/-!
A uniform view of syntax trees: every node has a name and labelled parts in a fixed order. Passes that
treat all nodes alike, such as listing a tree, are written once over this view.
-/
namespace CoScript.Node

/-- A labelled part of a node. -/
inductive Part where
  | text (label : String) (value : Text)
  | texts (label : String) (values : List Text)
  | flag (label : String) (set : Bool)
  | child (label : String) (node : Node)
  | children (label : String) (nodes : List Node)

/-- The nodes of a part, each with its label. The nodes of a list are numbered from zero. -/
def Part.branches : Part → List (Text × Node)
  | child label n => [(txt label, n)]
  | children label ns =>
    ns.mapIdx fun i n => (txt label ++ txt "[" ++ .decimal i ++ txt "]", n)
  | _ => []

/-- The name and the parts of a node. -/
def view : Node → String × List Part
  | absent => ("", [])
  | program body => ("Program", [.children "Statements" body])
  | block _ body => ("BlockStatement", [.children "Statements" body])
  | expressionStatement _ e => ("ExpressionStatement", [.child "Expression" e])
  | declaration _ keyword ds =>
    ("VarDeclaration", [.text "Kind" keyword, .children "Declarators" ds])
  | declarator _ target definite type value =>
    ("VarDeclarator", [.child "Target" target, .flag "Definite" definite,
      .child "TypeAnnotation" type, .child "Value" value])
  | functionDeclaration _ f => ("FunctionDeclaration", [.child "Function" f])
  | interfaceDeclaration _ name bases members =>
    ("InterfaceDeclaration",
      [.child "Name" name, .children "Extends" bases, .children "Members" members])
  | typeAlias _ name type => ("TypeAliasStatement", [.child "Name" name, .child "Type" type])
  | ifStatement _ c a b =>
    ("IfStatement", [.child "Condition" c, .child "Consequence" a, .child "Alternative" b])
  | forStatement _ init c u body =>
    ("ForStatement",
      [.child "Init" init, .child "Condition" c, .child "Update" u, .child "Body" body])
  | forIn _ left right body =>
    ("ForInStatement", [.child "Left" left, .child "Right" right, .child "Body" body])
  | forOf _ awaits left right body =>
    ("ForOfStatement",
      [.flag "Await" awaits, .child "Left" left, .child "Right" right, .child "Body" body])
  | whileStatement _ c body => ("WhileStatement", [.child "Condition" c, .child "Body" body])
  | doWhile _ body c => ("DoWhileStatement", [.child "Body" body, .child "Condition" c])
  | returnStatement _ v => ("ReturnStatement", [.child "ReturnValue" v])
  | breakStatement _ l => ("BreakStatement", [.child "Label" l])
  | continueStatement _ l => ("ContinueStatement", [.child "Label" l])
  | throwStatement _ v => ("ThrowStatement", [.child "Value" v])
  | tryStatement _ b h f =>
    ("TryStatement", [.child "Block" b, .child "Handler" h, .child "Finalizer" f])
  | catchClause _ p type body =>
    ("CatchClause", [.child "Param" p, .child "ParamType" type, .child "Body" body])
  | switchStatement _ d cases =>
    ("SwitchStatement", [.child "Discriminant" d, .children "Cases" cases])
  | switchCase _ test body => ("SwitchCase", [.child "Test" test, .children "Consequent" body])
  | labeled _ l body => ("LabeledStatement", [.child "Label" l, .child "Body" body])
  | emptyStatement _ => ("EmptyStatement", [])
  | identifier _ name => ("Identifier", [.text "Value" name])
  | privateName _ name => ("PrivateName", [.text "Name" name])
  | number _ raw => ("NumberLiteral", [.text "Raw" raw])
  | string _ value raw => ("StringLiteral", [.text "Value" value, .text "Raw" raw])
  | boolean _ value => ("BooleanLiteral", [.flag "Value" value])
  | null _ => ("NullLiteral", [])
  | regex _ pattern flags => ("RegexLiteral", [.text "Pattern" pattern, .text "Flags" flags])
  | template _ chunks es =>
    ("TemplateLiteral", [.texts "Quasis" chunks, .children "Expressions" es])
  | this _ => ("ThisExpression", [])
  | array _ es => ("ArrayLiteral", [.children "Elements" es])
  | object _ ps => ("ObjectLiteral", [.children "Properties" ps])
  | property _ key computed value shorthand method =>
    ("ObjectProperty", [.child "Key" key, .flag "Computed" computed, .child "Value" value,
      .flag "Shorthand" shorthand, .flag "Method" method])
  | spread _ e => ("SpreadElement", [.child "Argument" e])
  | parameter _ target optional rest type default =>
    ("Parameter", [.child "Target" target, .flag "Optional" optional, .flag "Rest" rest,
      .child "TypeAnnotation" type, .child "Default" default])
  | function _ async name ps r body =>
    ("FunctionLiteral", [.flag "Async" async, .child "Name" name, .children "Parameters" ps,
      .child "ReturnType" r, .child "Body" body])
  | arrow _ async ps r body =>
    ("ArrowFunctionLiteral", [.flag "Async" async, .children "Parameters" ps,
      .child "ReturnType" r, .child "Body" body])
  | taggedTemplate _ tag t =>
    ("TaggedTemplateExpression", [.child "Tag" tag, .child "Quasi" t])
  | call _ f args optional =>
    ("CallExpression",
      [.child "Function" f, .children "Arguments" args, .flag "Optional" optional])
  | new _ f args => ("NewExpression", [.child "Constructor" f, .children "Arguments" args])
  | member _ o p computed optional =>
    ("MemberExpression", [.child "Object" o, .child "Property" p, .flag "Computed" computed,
      .flag "Optional" optional])
  | assignment _ operator target value =>
    ("AssignmentExpression",
      [.text "Operator" operator, .child "Left" target, .child "Value" value])
  | binary _ left operator right =>
    ("InfixExpression", [.child "Left" left, .text "Operator" operator, .child "Right" right])
  | unary _ operator e => ("PrefixExpression", [.text "Operator" operator, .child "Right" e])
  | update _ operator e before =>
    ("UpdateExpression",
      [.text "Operator" operator, .child "Argument" e, .flag "Prefix" before])
  | conditional _ c a b =>
    ("TernaryExpression",
      [.child "Condition" c, .child "Consequence" a, .child "Alternative" b])
  | sequence _ es => ("SequenceExpression", [.children "Expressions" es])
  | await _ e => ("AwaitExpression", [.child "Argument" e])
  | assertion _ e type satisfies =>
    ("AsExpression", [.child "Expression" e, .child "Type" type, .flag "Satisfies" satisfies])
  | nonNull _ e => ("NonNullExpression", [.child "Expression" e])
  | arrayPattern _ es => ("ArrayPattern", [.children "Elements" es])
  | objectPattern _ ps rest =>
    ("ObjectPattern", [.children "Properties" ps, .child "Rest" rest])
  | patternProperty _ key computed value shorthand =>
    ("PatternProperty", [.child "Key" key, .flag "Computed" computed, .child "Value" value,
      .flag "Shorthand" shorthand])
  | assignmentPattern _ target default =>
    ("AssignmentPattern", [.child "Target" target, .child "Default" default])
  | restElement _ target => ("RestElement", [.child "Target" target])
  | propertySignature _ key computed optional readonly type =>
    ("PropertySignature", [.child "Key" key, .flag "Computed" computed, .flag "Optional" optional,
      .flag "Readonly" readonly, .child "TypeAnnotation" type])
  | methodSignature _ key computed optional ps r =>
    ("MethodSignature", [.child "Key" key, .flag "Computed" computed, .flag "Optional" optional,
      .children "Parameters" ps, .child "ReturnType" r])
  | indexSignature _ readonly param keyType valueType =>
    ("IndexSignature", [.flag "Readonly" readonly, .child "Param" param,
      .child "KeyType" keyType, .child "ValueType" valueType])
  | keywordType _ name => ("KeywordType", [.text "Name" name])
  | arrayType _ e => ("ArrayType", [.child "ElementType" e])
  | unionType _ types => ("UnionType", [.children "Types" types])
  | intersectionType _ types => ("IntersectionType", [.children "Types" types])
  | parenthesizedType _ type => ("ParenthesizedType", [.child "Type" type])
  | typeReference _ name args =>
    ("TypeReference", [.child "Name" name, .children "TypeArguments" args])
  | qualifiedName _ left right => ("QualifiedName", [.child "Left" left, .child "Right" right])
  | literalType _ e => ("LiteralType", [.child "Literal" e])
  | tupleType _ es => ("TupleType", [.children "Elements" es])
  | functionType _ ps r => ("FunctionType", [.children "Parameters" ps, .child "ReturnType" r])
  | objectType _ members => ("ObjectType", [.children "Members" members])

/-- The name of a node. -/
def title (n : Node) : String :=
  n.view.1

/-- The parts of a node. -/
def parts (n : Node) : List Part :=
  n.view.2

/-- The labelled nodes directly below a node. -/
def branches (n : Node) : List (Text × Node) :=
  n.parts.flatMap Part.branches

/-- The size of the nodes of a part. -/
noncomputable def Part.weight : Part → Nat
  | child _ n => sizeOf n
  | children _ ns => sizeOf ns
  | _ => 0

theorem Part.sizeOf_branch_le {p : Part} {label : Text} {n : Node} (h : (label, n) ∈ p.branches) :
    sizeOf n ≤ p.weight := by
  cases p with
  | text | texts | flag => simp [branches] at h
  | child =>
    simp only [branches, List.mem_singleton, Prod.mk.injEq] at h
    simp [weight, h.2]
  | children =>
    simp only [branches, List.mem_mapIdx, Prod.mk.injEq] at h
    obtain ⟨i, hi, _, rfl⟩ := h
    exact Nat.le_of_lt (List.sizeOf_lt_of_mem (List.getElem_mem hi))

theorem weight_part_lt (n : Node) : ∀ p ∈ n.parts, p.weight < sizeOf n := by
  generalize size : sizeOf n = k
  unfold parts view
  cases n <;> simp at size <;>
    simp only [List.forall_mem_cons, List.not_mem_nil, false_imp_iff, implies_true, and_true,
      Part.weight] <;> omega

/-- A node is smaller than the node it is directly below. -/
theorem sizeOf_branch_lt {n c : Node} {label : Text} (h : (label, c) ∈ n.branches) :
    sizeOf c < sizeOf n := by
  obtain ⟨p, hp, hc⟩ := List.mem_flatMap.1 h
  exact Nat.lt_of_le_of_lt (Part.sizeOf_branch_le hc) (n.weight_part_lt p hp)

/-- All nodes of a tree that are there, each before those below it. -/
def subtrees (n : Node) : List Node :=
  if n.isPresent then n :: n.branches.attach.flatMap fun ⟨(_, c), h⟩ =>
    have := sizeOf_branch_lt h
    c.subtrees
  else []
termination_by sizeOf n

end CoScript.Node
