import CoScript.Parse.Function
import CoScript.Regex.Check

/-!
Expressions. An operand is read first, and then operators that bind tightly enough go on from it.
-/
namespace CoScript.Parse

/-! Lists. -/

/-- An argument or an element of an array, which may be spread. -/
def listElement (self : Recur) : Parse Node := do
  let t ← current
  if t.is (.operator .ellipsis) then
    advance
    return .spread t (← self (.expression Level.comma))
  else self (.expression Level.comma)

/-- The elements of an array. A comma without an element before it leaves a hole. -/
def elements (self : Recur) : Parse (List Node) := do
  if ← skip (.operator .bracketClose) then return []
  if ← skip (.operator .comma) then return .absent :: (← self .elements)
  advance
  let element ← listElement self
  if ← skip (.operator .comma) then return element :: (← self .elements)
  expect (.operator .bracketClose)
  return [element]

/-- Arguments with commas between them. -/
def arguments (self : Recur) : Parse (List Node) := do
  advance
  let first ← listElement self
  if ← skip (.operator .comma) then
    if ← peekIs (.operator .parenClose) then return [first]
    return first :: (← self .arguments)
  return [first]

/-- An argument list in parentheses; the opening one is the current token. -/
def argumentList (self : Recur) : Parse (List Node) := allowIn do
  if ← skip (.operator .parenClose) then return []
  let items ← self .arguments
  expect (.operator .parenClose)
  return items

/-! Objects. -/

/-- An entry of an object after its key. -/
def propertyRest (self : Recur) (t : Token) (async : Bool) (key : Node) (computed : Bool) :
    Parse Node := do
  if ← skip (.operator .parenOpen) then
    let function ← functionRest self t async .absent
    return .property t key computed function false true
  let ahead ← peek
  if async then reject ahead (.expected (.operator .parenOpen) ahead)
  if ← skip (.operator .colon) then
    advance
    return .property t key computed (← self (.expression Level.comma)) false false
  match shorthand? key computed with
  | some (nameToken, name) =>
    return .property t key computed (.identifier nameToken name) true false
  | none => reject ahead (.expected (.operator .colon) ahead)

/-- An entry of an object. -/
def property (self : Recur) : Parse Node := do
  let t ← current
  if t.is (.operator .ellipsis) then
    advance
    let argument ← self (.expression Level.comma)
    return .property t .absent false (.spread t argument) false false
  let ahead ← peek
  let modified := startsKey ahead
  if modified && (t.isWord "get" || t.isWord "set") then reject t (.unsupportedAccessor t)
  let async := modified && t.isWord "async"
  if async then advance
  let (key, computed) ← key self
  propertyRest self t async key computed

/-- The entries of an object. -/
def properties (self : Recur) : Parse (List Node) := do
  if ← skip (.operator .braceClose) then return []
  advance
  let first ← property self
  if !(← peekIs (.operator .braceClose)) then expect (.operator .comma)
  return first :: (← self .properties)

/-! Literals. -/

/-- A regular expression, whose pattern has to make sense. Patterns in Unicode mode are not checked. -/
def regexLiteral (t : Token) : Parse Node := do
  let isSlash (g : Glyph) : Bool := g.is '/'
  let flags := (t.literal.reverse.takeWhile (!isSlash ·)).reverse
  let pattern := (t.literal.drop 1).take (t.literal.length - flags.length - 2)
  let node := Node.regex t pattern flags
  if flags.any fun g => g.is 'u' || g.is 'v' then return node
  match Regex.check pattern with
  | none => return node
  | some fault => reject t (.badRegex t.literal pattern fault)

/-- A substitution of a template, parsed as a text of its own. Only its first fault is reported, at
the template. -/
def substitution (self : Recur) (t : Token) (source : Text) : Parse Node := fun s =>
  match self (.expression Level.lowest) (.start source) with
  | (e, sub) =>
    let sub := if sub.complaints.isEmpty && !sub.peek.is .eof then
      sub.complain sub.peek (.unexpected sub.peek) else sub
    match sub.complaints with
    | [] => (e, s)
    | first :: _ => (none, s.complain t (.inSubstitution first.fault))

/-- The substitutions of a template in turn. -/
def substitutions (self : Recur) (t : Token) : List Text → Parse (List Node)
  | [] => return []
  | source :: sources => do
    let first ← substitution self t source
    return first :: (← substitutions self t sources)

/-- A template. -/
def templateLiteral (self : Recur) (t : Token) : Parse Node := do
  match Template.split? t.literal with
  | none => reject t .malformedTemplate
  | some body => return .template t body.chunks (← substitutions self t body.sources)

/-! Operands. -/

/-- A name, or an arrow function or asynchronous function that starts with one. -/
def nameOperand (self : Recur) (t : Token) : Parse Node := do
  let ahead ← peek
  let sameLine := !ahead.newlineBefore
  if ahead.is (.operator .arrow) && sameLine then arrowOfName self false
  else if t.literal == txt "async" && sameLine then
    if ← skip (.keyword .function) then functionExpression self true
    else if ahead.is .identifier then
      let isArrow ← foresee do
        advance
        peekIs (.operator .arrow)
      if isArrow then
        advance
        arrowOfName self true
      else return .identifier t t.literal
    else if ahead.is (.operator .parenOpen) then
      let isArrow ← foresee do
        advance
        arrowAhead self
      if isArrow then
        advance
        arrowFunction self true
      else return .identifier t t.literal
    else return .identifier t t.literal
  else return .identifier t t.literal

/-- An expression in parentheses, or an arrow function. -/
def groupOperand (self : Recur) : Parse Node := do
  if ← arrowAhead self then arrowFunction self false
  else allowIn do
    advance
    let e ← self (.expression Level.lowest)
    expect (.operator .parenClose)
    return e

/-- An object made by a constructor. The arguments may be left out. -/
def newOperand (self : Recur) (t : Token) : Parse Node := do
  let ahead ← peek
  if ahead.is (.operator .dot) then reject ahead (.unsupported .newTarget)
  advance
  let callee ← self (.expression Level.call)
  if ← skip (.operator .parenOpen) then return .new t callee (← argumentList self)
  return .new t callee []

/-- An operator before its operand. -/
def unaryOperand (self : Recur) (t : Token) : Parse Node := do
  advance
  return .unary t t.literal (← self (.expression Level.unary))

/-- An increment or decrement before its operand. -/
def updateOperand (self : Recur) (t : Token) : Parse Node := do
  advance
  let operand ← self (.expression Level.unary)
  if !operand.isAssignable then reject t (.badOperand t)
  return .update t t.literal operand true

/-- An expression without the operators after it. -/
def operand (self : Recur) : Parse Node := do
  let t ← current
  match t.kind with
  | .identifier => nameOperand self t
  | .number => return .number t t.literal
  | .string => return .string t t.literal t.raw
  | .template => templateLiteral self t
  | .regex => regexLiteral t
  | .keyword .true => return .boolean t true
  | .keyword .false => return .boolean t false
  | .keyword .null => return .null t
  | .keyword .this => return .this t
  | .operator .parenOpen => groupOperand self
  | .operator .bracketOpen => return .array t (← allowIn (self .elements))
  | .operator .braceOpen => return .object t (← allowIn (self .properties))
  | .keyword .function => functionExpression self false
  | .keyword .new => newOperand self t
  | .keyword .await =>
    advance
    return .await t (← self (.expression Level.unary))
  | .operator .bang | .operator .minus | .operator .plus | .operator .tilde
  | .keyword .typeof | .keyword .void | .keyword .delete => unaryOperand self t
  | .operator .increment | .operator .decrement => updateOperand self t
  | .illegal => reject t (.illegal t)
  | .keyword .class_ | .keyword .enum | .keyword .import | .keyword .export | .operator .at =>
    reject t (.unsupportedToken t)
  | _ => reject t (.unexpected t)

/-- An expression. -/
def expression (self : Recur) (level : Nat) : Parse Node := do
  let left ← operand self
  self (.operators level left)

/-! Operators after an operand; each one is the current token. -/

/-- An assignment, to something that can be assigned to or, with a plain equals sign, taken apart. -/
def assignmentRest (self : Recur) (t : Token) (left : Node) : Parse Node := do
  if !left.isAssignable && !(t.is (.operator .assign) && left.isDestructuring) then
    reject t .badTarget
  advance
  return .assignment t t.literal left (← self (.expression (Level.assignment - 1)))

/-- A choice between two expressions. -/
def conditionalRest (self : Recur) (t : Token) (condition : Node) : Parse Node := do
  let consequence ← allowIn do
    advance
    self (.expression Level.comma)
  expect (.operator .colon)
  advance
  return .conditional t condition consequence (← self (.expression Level.comma))

/-- One more expression of a sequence. -/
def sequenceRest (self : Recur) (t : Token) (first : Node) : Parse Node := do
  advance
  let next ← self (.expression Level.comma)
  match first with
  | .sequence t expressions => return .sequence t (expressions ++ [next])
  | _ => return .sequence t [first, next]

/-- An assertion about the type of an expression. -/
def assertionRest (self : Recur) (t : Token) (left : Node) : Parse Node := do
  let satisfies := t.is (.keyword .satisfies)
  advance
  let c ← current
  if c.is (.keyword .const) then
    return .assertion t left (.typeReference c (.identifier c (txt "const")) []) satisfies
  return .assertion t left (← self (.type Level.lowest)) satisfies

/-- The name of a property after a point; `t` is the point. -/
def propertyName (t : Token) : Parse Node := do
  let ahead ← peek
  if ahead.is .privateName then
    advance
    return .privateName ahead (ahead.literal.drop 1)
  else if ahead.namesProperty then
    advance
    return .identifier ahead ahead.literal
  else reject ahead (.expectedPropertyAfter t ahead)

/-- A property in brackets; `t` is the opening bracket. -/
def indexRest (self : Recur) (t : Token) (object : Node) (optional : Bool) : Parse Node := do
  let property ← allowIn do
    advance
    self (.expression Level.lowest)
  expect (.operator .bracketClose)
  return .member t object property true optional

/-- A link of an optional chain: a property, an index or a call. -/
def optionalRest (self : Recur) (t : Token) (object : Node) : Parse Node := do
  let ahead ← peek
  if ← skip (.operator .parenOpen) then
    return .call ahead object (← argumentList self) true
  else if ← skip (.operator .bracketOpen) then indexRest self ahead object true
  else return .member t object (← propertyName t) false true

/-- The current token follows an operand and takes it as its left operand. -/
def operatorRest (self : Recur) (left : Node) : Parse Node := do
  let t ← current
  let level := Level.ofKind t.kind
  match t.kind with
  | .operator .comma => sequenceRest self t left
  | .operator .question => conditionalRest self t left
  | .operator .power =>
    advance
    return .binary t left t.literal (← self (.expression (Level.power - 1)))
  | .keyword .as | .keyword .satisfies => assertionRest self t left
  | .operator .increment | .operator .decrement =>
    if !left.isAssignable then reject t (.badOperand t)
    return .update t t.literal left false
  | .operator .bang => return .nonNull t left
  | .operator .parenOpen => return .call t left (← argumentList self) false
  | .template => return .taggedTemplate t left (← templateLiteral self t)
  | .operator .bracketOpen => indexRest self t left false
  | .operator .dot => return .member t left (← propertyName t) false false
  | .operator .optionalDot => optionalRest self t left
  | _ =>
    if level = Level.assignment then assignmentRest self t left
    else
      advance
      return .binary t left t.literal (← self (.expression level))

/-- What goes on from an operand. -/
def operators (self : Recur) (level : Nat) (left : Node) : Parse Node := do
  if level < (← peekLevel) then
    advance
    let left ← operatorRest self left
    self (.operators level left)
  else return left

end CoScript.Parse
