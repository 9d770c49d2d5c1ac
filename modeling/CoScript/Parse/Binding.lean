import CoScript.Parse.Key

/-!
Names and patterns that declarations and parameters bind.
-/
namespace CoScript.Parse

/-- A name, an array pattern or an object pattern. -/
def binding (self : Recur) : Parse Node := do
  let t ← current
  match t.kind with
  | .identifier => return .identifier t t.literal
  | .operator .bracketOpen => return .arrayPattern t (← self .patternElements)
  | .operator .braceOpen =>
    let (properties, rest) ← self .patternProperties
    return .objectPattern t properties rest
  | _ => reject t (.expectedBinding t)

/-- A binding, with a default value if there is one. -/
def bindingElement (self : Recur) : Parse Node := do
  let target ← self .binding
  if ← skip (.operator .assign) then
    let t ← current
    let default ← allowIn do
      advance
      self (.expression Level.comma)
    return .assignmentPattern t target default
  else return target

/-- The elements of an array pattern. A comma without an element before it leaves a hole, and nothing
follows a rest element. -/
def patternElements (self : Recur) : Parse (List Node) := do
  if ← skip (.operator .bracketClose) then return []
  if ← skip (.operator .comma) then return .absent :: (← self .patternElements)
  advance
  let t ← current
  if t.is (.operator .ellipsis) then
    advance
    let target ← self .binding
    expect (.operator .bracketClose)
    return [.restElement t target]
  let element ← bindingElement self
  if ← skip (.operator .comma) then return element :: (← self .patternElements)
  expect (.operator .bracketClose)
  return [element]

/-- A property of an object pattern. -/
def patternProperty (self : Recur) : Parse Node := do
  let t ← current
  let (key, computed) ← key self
  if ← skip (.operator .colon) then
    advance
    return .patternProperty t key computed (← bindingElement self) false
  let last ← current
  match shorthand? key computed, last.is .identifier with
  | some (nameToken, name), true =>
    let target := Node.identifier nameToken name
    if ← skip (.operator .assign) then
      let assign ← current
      advance
      let default ← self (.expression Level.comma)
      return .patternProperty t key computed (.assignmentPattern assign target default) true
    else return .patternProperty t key computed target true
  | _, _ =>
    let t ← peek
    reject t (.expected (.operator .colon) t)

/-- The properties of an object pattern and the pattern for the others. -/
def patternProperties (self : Recur) : Parse (List Node × Node) := do
  if ← skip (.operator .braceClose) then return ([], .absent)
  advance
  if ← currentIs (.operator .ellipsis) then
    advance
    let rest ← self .binding
    expect (.operator .braceClose)
    return ([], rest)
  let property ← patternProperty self
  if !(← peekIs (.operator .braceClose)) then expect (.operator .comma)
  let (properties, rest) ← self .patternProperties
  return (property :: properties, rest)

/-- A parameter, which may be the last one and collect the rest. -/
def parameter (self : Recur) : Parse Node := do
  let t ← current
  let rest := t.is (.operator .ellipsis)
  if rest then advance
  let first ← current
  if first.is (.keyword .this) then reject first (.unsupported .thisParameter)
  let target ← self .binding
  let optional ← skip (.operator .question)
  let type ← annotation self
  let default ← initializer self
  return .parameter t target optional rest type default

/-- Parameters with commas between them. -/
def parameters (self : Recur) : Parse (List Node) := do
  advance
  let rest ← currentIs (.operator .ellipsis)
  let first ← parameter self
  if rest then return [first]
  if ← skip (.operator .comma) then
    if ← peekIs (.operator .parenClose) then return [first]
    return first :: (← self .parameters)
  return [first]

/-- A parameter list in parentheses; the opening one is the current token. -/
def parameterList (self : Recur) : Parse (List Node) := allowIn do
  if ← skip (.operator .parenClose) then return []
  let items ← self .parameters
  expect (.operator .parenClose)
  return items

end CoScript.Parse
