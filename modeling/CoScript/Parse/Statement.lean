import CoScript.Parse.Expression

/-!
Statements.
-/
namespace CoScript.Parse

/-! Lists of statements. A broken statement is left out, and the next one starts after it. -/

/-- A statement of a list and the step to the token after it. -/
def item (self : Recur) : Parse (Option Node) := do
  let (statement, broken) ← watch (attempt (self .statement))
  if broken then recover
  advance
  return statement

/-- Statements up to the end of the input. -/
def programItems (self : Recur) : Parse (List Node) := do
  if ← currentIs .eof then return []
  let first ← item self
  return first.toList ++ (← self .programItems)

/-- Statements up to a closing brace. -/
def blockItems (self : Recur) : Parse (List Node) := do
  if ← currentIs (.operator .braceClose) then return []
  if ← currentIs .eof then return []
  let first ← item self
  return first.toList ++ (← self .blockItems)

/-! Declarations. -/

/-- One binding of a declaration. -/
def declarator (self : Recur) : Parse Node := do
  let t ← current
  let target ← self .binding
  let ahead ← peek
  let definite := ahead.is (.operator .bang) && !ahead.newlineBefore
  if definite then advance
  let type ← annotation self
  let value ← initializer self
  return .declarator t target definite type value

/-- Bindings with commas between them. -/
def declarators (self : Recur) : Parse (List Node) := do
  advance
  let first ← declarator self
  if ← skip (.operator .comma) then return first :: (← self .declarators)
  return [first]

/-- A declaration without its end; its keyword is the current token. -/
def declaration (self : Recur) : Parse Node := do
  let t ← current
  return .declaration t t.literal (← self .declarators)

/-- An interface. -/
def interfaceDeclaration (self : Recur) : Parse Node := do
  let t ← current
  advance
  let name ← current
  let ahead ← peek
  if ahead.is (.operator .less) then reject ahead (.unsupported .genericInterface)
  let bases ← if ahead.isWord "extends" then
      advance
      self .bases
    else pure []
  expect (.operator .braceOpen)
  return .interfaceDeclaration t (.identifier name name.literal) bases (← self .members)

/-- A name for a type. -/
def typeAlias (self : Recur) : Parse Node := do
  let t ← current
  advance
  let name ← current
  let ahead ← peek
  if ahead.is (.operator .less) then reject ahead (.unsupported .genericAlias)
  expect (.operator .assign)
  advance
  let type ← self (.type Level.lowest)
  finishStatement
  return .typeAlias t (.identifier name name.literal) type

/-! Control flow. -/

/-- An expression in parentheses after the current token. -/
def condition (self : Recur) : Parse Node := do
  expect (.operator .parenOpen)
  advance
  let e ← self (.expression Level.lowest)
  expect (.operator .parenClose)
  return e

/-- A statement after the current token. -/
def body (self : Recur) : Parse Node := do
  advance
  self .statement

/-- A choice between statements. -/
def ifStatement (self : Recur) : Parse Node := do
  let t ← current
  let condition ← condition self
  let consequence ← body self
  if ← skip (.keyword .else) then
    return .ifStatement t condition consequence (← body self)
  return .ifStatement t condition consequence .absent

/-- What is wrong with the left side of a loop over properties or elements, and where. -/
def loopHeadFault? (t : Token) : Node → Option (Token × Fault)
  | .declaration d _ declarators =>
    match declarators with
    | [.declarator _ _ _ _ .absent] => none
    | _ => some (d, .badLoopDeclaration)
  | e => if e.isAssignable || e.isDestructuring then none else some (t, .badLoopTarget)

/-- The rest of a loop over properties or elements; the word `in` or `of` is ahead. -/
def loopOver (self : Recur) (t : Token) (left : Node) (ofElements awaits : Bool) : Parse Node := do
  match loopHeadFault? t left with
  | some (at_, fault) => reject at_ fault
  | none =>
    advance
    advance
    let right ← self (.expression (if ofElements then Level.comma else Level.lowest))
    expect (.operator .parenClose)
    let body ← body self
    if ofElements then return .forOf t awaits left right body else return .forIn t left right body

/-- The rest of a loop with three clauses; the first semicolon is the current token. -/
def loopClauses (self : Recur) (t : Token) (init : Node) : Parse Node := do
  let condition ← if ← peekIs (.operator .semicolon) then pure .absent
    else do
      advance
      self (.expression Level.lowest)
  expect (.operator .semicolon)
  let update ← if ← peekIs (.operator .parenClose) then pure .absent
    else do
      advance
      self (.expression Level.lowest)
  expect (.operator .parenClose)
  return .forStatement t init condition update (← body self)

/-- What a loop starts with: nothing, a declaration or an expression, in which `in` is no operator. -/
def loopInit (self : Recur) : Parse Node := do
  let t ← current
  match t.kind with
  | .operator .semicolon => return .absent
  | .keyword .let | .keyword .const | .keyword .var => forbidIn (declaration self)
  | _ => forbidIn (self (.expression Level.lowest))

/-- A loop introduced by `for`. -/
def forStatement (self : Recur) : Parse Node := do
  let t ← current
  let awaits ← skip (.keyword .await)
  expect (.operator .parenOpen)
  advance
  let init ← loopInit self
  let ahead ← peek
  if init.isPresent && ahead.is (.keyword .in) && !awaits then loopOver self t init false false
  else if init.isPresent && ahead.isWord "of" then loopOver self t init true awaits
  else
    if init.isPresent then expect (.operator .semicolon)
    if awaits then reject t .awaitWithoutOf
    loopClauses self t init

/-- A loop with its condition in front. -/
def whileStatement (self : Recur) : Parse Node := do
  let t ← current
  let condition ← condition self
  return .whileStatement t condition (← body self)

/-- A loop with its condition behind. The semicolon after it may be left out anywhere. -/
def doWhile (self : Recur) : Parse Node := do
  let t ← current
  let body ← body self
  expect (.keyword .while)
  let condition ← condition self
  let _ ← skip (.operator .semicolon)
  return .doWhile t body condition

/-- A return, with a value unless the statement ends. -/
def returnStatement (self : Recur) : Parse Node := do
  let t ← current
  let value ← if ← statementEnds then pure .absent
    else do
      advance
      self (.expression Level.lowest)
  finishStatement
  return .returnStatement t value

/-- A jump out of a loop or to its next round, with a label on the same line if there is one. -/
def jump : Parse Node := do
  let t ← current
  let ahead ← peek
  let label ← if ahead.is .identifier && !ahead.newlineBefore then
      advance
      pure (.identifier ahead ahead.literal)
    else pure .absent
  finishStatement
  if t.is (.keyword .break) then return .breakStatement t label
  else return .continueStatement t label

/-- A throw, whose value starts on the same line. -/
def throwStatement (self : Recur) : Parse Node := do
  let t ← current
  let ahead ← peek
  if ahead.newlineBefore then reject ahead .lineBreakAfterThrow
  advance
  let value ← self (.expression Level.lowest)
  finishStatement
  return .throwStatement t value

/-- A block after the current token. -/
def blockAhead (self : Recur) : Parse Node := do
  expect (.operator .braceOpen)
  block self

/-- A handler of errors, with a parameter if one is given; the word `catch` is the current token. -/
def catchClause (self : Recur) : Parse Node := do
  let t ← current
  if ← skip (.operator .parenOpen) then
    advance
    let param ← self .binding
    let type ← annotation self
    expect (.operator .parenClose)
    return .catchClause t param type (← blockAhead self)
  return .catchClause t .absent .absent (← blockAhead self)

/-- A block with a handler, a finalizer or both. -/
def tryStatement (self : Recur) : Parse Node := do
  let t ← current
  let block ← blockAhead self
  let handler ← if ← skip (.keyword .catch) then catchClause self else pure .absent
  let finalizer ← if ← skip (.keyword .finally) then blockAhead self else pure .absent
  if !handler.isPresent && !finalizer.isPresent then
    let ahead ← peek
    reject ahead .tryAlone
  return .tryStatement t block handler finalizer

/-- Statements of an arm of a switch. A broken one breaks the whole switch. -/
def caseItems (self : Recur) : Parse (List Node) := do
  let t ← current
  if t.is (.keyword .case) || t.is (.keyword .default) || t.is (.operator .braceClose) || t.is .eof
  then return []
  let (statement, broken) ← watch (attempt (self .statement))
  if broken then giveUp
  advance
  return statement.toList ++ (← self .caseItems)

/-- The test of an arm of a switch; the default arm, of which there is only one, has none. -/
def caseTest (self : Recur) (seenDefault : Bool) (t : Token) : Parse Node := do
  match t.kind with
  | .keyword .case =>
    advance
    self (.expression Level.lowest)
  | .keyword .default => if seenDefault then reject t .secondDefault else return .absent
  | _ => reject t (.expectedCase t)

/-- The arms of a switch. -/
def cases (self : Recur) (seenDefault : Bool) : Parse (List Node) := do
  let t ← current
  if t.is (.operator .braceClose) then return []
  let test ← caseTest self seenDefault t
  expect (.operator .colon)
  advance
  let items ← self .caseItems
  let last ← current
  if last.is .eof then reject last .unclosedBrace
  let rest ← self (.cases (seenDefault || t.is (.keyword .default)))
  return .switchCase t test items :: rest

/-- A switch. -/
def switchStatement (self : Recur) : Parse Node := do
  let t ← current
  let discriminant ← condition self
  expect (.operator .braceOpen)
  advance
  return .switchStatement t discriminant (← self (.cases false))

/-- A statement with a label. -/
def labeledStatement (self : Recur) : Parse Node := do
  let t ← current
  advance
  return .labeled t (.identifier t t.literal) (← body self)

/-- An expression as a statement. -/
def expressionStatement (self : Recur) : Parse Node := do
  let t ← current
  let e ← self (.expression Level.lowest)
  finishStatement
  return .expressionStatement t e

/-- A statement that starts with a word that is no reserved word: it may be a label, or introduce a
declaration if the right word follows on the same line. -/
def wordStatement (self : Recur) (t : Token) : Parse Node := do
  let ahead ← peek
  let sameLine := !ahead.newlineBefore
  let declares := sameLine && ahead.is .identifier
  if ahead.is (.operator .colon) then labeledStatement self
  else if t.isWord "async" && sameLine && ahead.is (.keyword .function) then
    advance
    functionDeclaration self t true
  else if t.isWord "interface" && declares then interfaceDeclaration self
  else if t.isWord "type" && declares then typeAlias self
  else if (t.isWord "declare" || t.isWord "namespace" || t.isWord "module") && declares then
    reject t (.unsupportedToken t)
  else expressionStatement self

/-- A statement. -/
def statement (self : Recur) : Parse Node := do
  let t ← current
  match t.kind with
  | .keyword .let | .keyword .const | .keyword .var =>
    let d ← declaration self
    finishStatement
    return d
  | .keyword .function => functionDeclaration self t false
  | .keyword .if => ifStatement self
  | .keyword .for => forStatement self
  | .keyword .while => whileStatement self
  | .keyword .do => doWhile self
  | .keyword .return => returnStatement self
  | .keyword .break | .keyword .continue => jump
  | .keyword .throw => throwStatement self
  | .keyword .try => tryStatement self
  | .keyword .switch => switchStatement self
  | .operator .braceOpen => block self
  | .operator .semicolon => return .emptyStatement t
  | .keyword .class_ | .keyword .enum | .keyword .import | .keyword .export | .operator .at =>
    reject t (.unsupportedToken t)
  | .identifier => wordStatement self t
  | _ => expressionStatement self

end CoScript.Parse
