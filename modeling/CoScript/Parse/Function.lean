import CoScript.Parse.TypeExpression

/-!
Functions: blocks, signatures, arrow functions.
-/
namespace CoScript.Parse

/-- A block in braces; the opening one is the current token. -/
def block (self : Recur) : Parse Node := do
  let t ← current
  advance
  let items ← self .blockItems
  let last ← current
  if last.is (.operator .braceClose) then return .block t items
  reject last .unclosedBrace

/-- The body of a function. -/
def functionBody (self : Recur) : Parse Node :=
  allowIn (block self)

/-- What follows the name of a function: parameters, result type and body. -/
def functionRest (self : Recur) (t : Token) (async : Bool) (name : Node) : Parse Node := do
  let parameters ← parameterList self
  let returnType ← annotation self
  expect (.operator .braceOpen)
  let body ← functionBody self
  return .function t async name parameters returnType body

/-- A function expression; the word `function` is the current token. -/
def functionExpression (self : Recur) (async : Bool) : Parse Node := do
  let t ← current
  let ahead ← peek
  if ahead.is (.operator .asterisk) then reject ahead (.unsupported .generator)
  let name ← if ← skip .identifier then
      let n ← current
      pure (.identifier n n.literal)
    else pure .absent
  expect (.operator .parenOpen)
  functionRest self t async name

/-- A function declaration; the word `function` is the current token, and `first` is the first token
of the declaration. -/
def functionDeclaration (self : Recur) (first : Token) (async : Bool) : Parse Node := do
  let t ← current
  let ahead ← peek
  if ahead.is (.operator .asterisk) then reject ahead (.unsupported .generator)
  expect .identifier
  let n ← current
  let ahead ← peek
  if ahead.is (.operator .less) then reject ahead (.unsupported .genericFunction)
  expect (.operator .parenOpen)
  return .functionDeclaration first (← functionRest self t async (.identifier n n.literal))

/-- The arrow is the current token: a block or an expression follows. -/
def arrowBody (self : Recur) (t : Token) (async : Bool) (parameters : List Node)
    (returnType : Node) : Parse Node := do
  if ← skip (.operator .braceOpen) then
    return .arrow t async parameters returnType (← functionBody self)
  advance
  return .arrow t async parameters returnType (← self (.expression Level.comma))

/-- An arrow function with a parameter list; its opening parenthesis is the current token. -/
def arrowFunction (self : Recur) (async : Bool) : Parse Node := do
  let t ← current
  let parameters ← parameterList self
  let returnType ← annotation self
  expect (.operator .arrow)
  arrowBody self t async parameters returnType

/-- An arrow function with a single bare parameter, which is the current token. -/
def arrowOfName (self : Recur) (async : Bool) : Parse Node := do
  let t ← current
  advance
  arrowBody self t async [.parameter t (.identifier t t.literal) false false .absent .absent] .absent

/-- Goes to the bracket that closes the one at the current token, whatever kinds of brackets there
are in between. -/
def closing? (depth : Nat) (current : Token) : List Token → Option (Token × List Token)
  | [] => if deepened = 0 then some (current, []) else none
  | t :: rest =>
    if current.is .eof then none
    else if deepened = 0 then some (current, t :: rest)
    else closing? deepened t rest
where
  /-- The number of brackets open after the current token. -/
  deepened : Nat :=
    match current.kind with
    | .operator .parenOpen | .operator .bracketOpen | .operator .braceOpen => depth + 1
    | .operator .parenClose | .operator .bracketClose | .operator .braceClose => depth - 1
    | _ => depth

/-- Whether the parenthesis at the current token opens the parameters of an arrow function: an arrow
follows the closing one on the same line, or a colon and a type do and then an arrow. -/
def arrowAhead (self : Recur) : Parse Bool := fun s =>
  match closing? 0 s.current s.upcoming with
  | none => (some false, s)
  | some (current, upcoming) =>
    let s' := { s with current := current, upcoming := upcoming }
    if s'.peek.is (.operator .arrow) then (some (!s'.peek.newlineBefore), s)
    else if !s'.peek.is (.operator .colon) then (some false, s)
    else
      match self (.type Level.lowest) s'.advance.advance with
      | (_, s'') =>
        (some (s''.complaints.length == s.complaints.length && s''.peek.is (.operator .arrow)), s)

end CoScript.Parse
