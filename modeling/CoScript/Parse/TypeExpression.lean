import CoScript.Parse.Binding

/-!
Types, and the members of interfaces and object types.
-/
namespace CoScript.Parse

/-- The names of built-in types. -/
def builtinTypes : List String :=
  ["number", "string", "boolean", "any", "unknown", "never", "undefined", "object", "symbol",
   "bigint"]

/-- The rest of a dotted name. -/
def typeName (self : Recur) (left : Node) : Parse Node := do
  if ← skip (.operator .dot) then
    let dot ← current
    expect .identifier
    let t ← current
    self (.typeName (.qualifiedName dot left (.identifier t t.literal)))
  else return left

/-- Type arguments with commas between them. -/
def typeArguments (self : Recur) : Parse (List Node) := do
  advance
  let first ← self (.type Level.lowest)
  if ← skip (.operator .comma) then return first :: (← self .typeArguments)
  return [first]

/-- A built-in type, or a reference to a type by name. -/
def typeReference (self : Recur) : Parse Node := do
  let t ← current
  let ahead ← peek
  if builtinTypes.any (txt · == t.literal) && !ahead.is (.operator .dot) then
    return .keywordType t t.literal
  let name ← self (.typeName (.identifier t t.literal))
  if ← skip (.operator .less) then
    let arguments ← self .typeArguments
    expectAngleClose
    return .typeReference t name arguments
  return .typeReference t name []

/-- A type in parentheses, or the type of a function. -/
def parenthesizedType (self : Recur) : Parse Node := do
  let t ← current
  let isFunction ← foresee do
    let _ ← parameterList self
    peekIs (.operator .arrow)
  if isFunction then
    let parameters ← parameterList self
    expect (.operator .arrow)
    advance
    return .functionType t parameters (← self (.type Level.lowest))
  advance
  let inner ← self (.type Level.lowest)
  expect (.operator .parenClose)
  return .parenthesizedType t inner

/-- The elements of a tuple type. -/
def tupleElements (self : Recur) : Parse (List Node) := do
  if ← skip (.operator .bracketClose) then return []
  advance
  let element ← self (.type Level.lowest)
  if !(← peekIs (.operator .bracketClose)) then expect (.operator .comma)
  return element :: (← self .tupleElements)

/-- A type without the operators after it. -/
def typeOperand (self : Recur) : Parse Node := do
  let t ← current
  match t.kind with
  | .identifier => typeReference self
  | .keyword .void | .keyword .null => return .keywordType t t.literal
  | .string => return .literalType t (.string t t.literal t.raw)
  | .number => return .literalType t (.number t t.literal)
  | .keyword .true => return .literalType t (.boolean t true)
  | .keyword .false => return .literalType t (.boolean t false)
  | .operator .minus =>
    expect .number
    let n ← current
    return .literalType t (.unary t (txt "-") (.number n n.literal))
  | .operator .parenOpen => parenthesizedType self
  | .operator .bracketOpen => return .tupleType t (← self .tupleElements)
  | .operator .braceOpen => return .objectType t (← self .members)
  | .operator .pipe =>
    advance
    self (.type Level.union)
  | .operator .ampersand =>
    advance
    self (.type Level.intersection)
  | .keyword .typeof => reject t (.unsupported .typeofType)
  | _ => reject t (.expectedType t)

/-- A type. -/
def typeExpression (self : Recur) (level : Nat) : Parse Node := do
  let left ← typeOperand self
  self (.typeOperators level left)

/-- A union with one more member. -/
def unite (t : Token) (left right : Node) : Node :=
  match left with
  | .unionType t types => .unionType t (types ++ [right])
  | _ => .unionType t [left, right]

/-- An intersection with one more member. -/
def intersect (t : Token) (left right : Node) : Node :=
  match left with
  | .intersectionType t types => .intersectionType t (types ++ [right])
  | _ => .intersectionType t [left, right]

/-- What goes on from a type: union, intersection and array brackets. Brackets on a new line belong
to the next statement. -/
def typeOperators (self : Recur) (level : Nat) (left : Node) : Parse Node := do
  let ahead ← peek
  if !(level < Level.ofTypeKind ahead.kind) then return left
  match ahead.kind with
  | .operator .pipe =>
    advance
    advance
    let right ← self (.type Level.union)
    self (.typeOperators level (unite ahead left right))
  | .operator .ampersand =>
    advance
    advance
    let right ← self (.type Level.intersection)
    self (.typeOperators level (intersect ahead left right))
  | .operator .bracketOpen =>
    if ahead.newlineBefore then return left
    advance
    if ← skip (.operator .bracketClose) then
      self (.typeOperators level (.arrayType ahead left))
    else reject ahead (.unsupported .indexedType)
  | _ => return left

/-! Members. -/

/-- Whether an index signature starts at the bracket that is the current token: a name and a colon
follow. -/
def indexSignatureAhead : Parse Bool := fun s =>
  (some (s.peek.is .identifier && s.advance.peek.is (.operator .colon)), s)

/-- An index signature. -/
def indexSignature (self : Recur) (t : Token) (readonly : Bool) : Parse Node := do
  advance
  let param ← current
  advance
  advance
  let keyType ← self (.type Level.lowest)
  expect (.operator .bracketClose)
  expect (.operator .colon)
  advance
  let valueType ← self (.type Level.lowest)
  return .indexSignature t readonly (.identifier param param.literal) keyType valueType

/-- A property or a method of an interface. -/
def keyedMember (self : Recur) (t : Token) (readonly : Bool) : Parse Node := do
  let (key, computed) ← key self
  let optional ← skip (.operator .question)
  let ahead ← peek
  if ahead.is (.operator .less) then reject ahead (.unsupported .genericMethod)
  if ← skip (.operator .parenOpen) then
    let parameters ← parameterList self
    return .methodSignature t key computed optional parameters (← annotation self)
  return .propertySignature t key computed optional readonly (← annotation self)

/-- A member of an interface. -/
def memberSignature (self : Recur) : Parse Node := do
  let t ← current
  let ahead ← peek
  let readonly := t.isWord "readonly" && !ahead.newlineBefore && startsKey ahead
  if readonly then advance
  let first ← current
  let isIndex ← indexSignatureAhead
  if first.is (.operator .bracketOpen) && isIndex then indexSignature self t readonly
  else if first.is (.operator .parenOpen) || first.is (.keyword .new) then
    reject first (.unsupported .callSignature)
  else keyedMember self t readonly

/-- The members of an interface, each ended by a semicolon, a comma, a line break or the closing
brace. -/
def members (self : Recur) : Parse (List Node) := do
  if ← skip (.operator .braceClose) then return []
  advance
  let member ← memberSignature self
  let ahead ← peek
  if ahead.is (.operator .semicolon) || ahead.is (.operator .comma) then advance
  else if !ahead.is (.operator .braceClose) && !ahead.newlineBefore then
    reject ahead (.expectedMemberEnd ahead)
  return member :: (← self .members)

/-- Base interfaces with commas between them. -/
def bases (self : Recur) : Parse (List Node) := do
  expect .identifier
  let base ← typeReference self
  if ← skip (.operator .comma) then return base :: (← self .bases)
  return [base]

end CoScript.Parse
