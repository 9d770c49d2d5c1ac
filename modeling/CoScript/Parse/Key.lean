import CoScript.Parse.Goal

/-!
Keys of properties, in objects, patterns and interfaces.
-/
namespace CoScript.Parse

/-- Whether a token can begin the key of a property. -/
def startsKey (t : Token) : Bool :=
  t.namesProperty || t.is .string || t.is .number || t.is (.operator .bracketOpen)

/-- A key: a word, a string, a number, or an expression in brackets, which makes it computed. -/
def key (self : Recur) : Parse (Node × Bool) := do
  let t ← current
  if t.namesProperty then return (.identifier t t.literal, false)
  else if t.is .string then return (.string t t.literal t.raw, false)
  else if t.is .number then return (.number t t.literal, false)
  else if t.is (.operator .bracketOpen) then
    let e ← allowIn do
      advance
      self (.expression Level.comma)
    expect (.operator .bracketClose)
    return (e, true)
  else reject t (.expectedProperty t)

/-- The name that a key spells, with its token, if the key is a word that is not computed. -/
def shorthand? : Node → (computed : Bool) → Option (Token × Text)
  | .identifier t name, false => some (t, name)
  | _, _ => none

/-- An annotation after a colon, if there is one. -/
def annotation (self : Recur) : Parse Node := do
  if ← skip (.operator .colon) then
    advance
    self (.type Level.lowest)
  else return .absent

/-- A value after an equals sign, if there is one. -/
def initializer (self : Recur) : Parse Node := do
  if ← skip (.operator .assign) then
    advance
    self (.expression Level.comma)
  else return .absent

end CoScript.Parse
