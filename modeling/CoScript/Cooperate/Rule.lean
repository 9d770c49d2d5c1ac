import CoScript.Syntax.Node

/-!
The rules by which a script is made cooperative, and the log of where each was applied.
-/
namespace CoScript.Cooperate

/-- A rule. -/
inductive Rule where
  /-- Every round of a loop gives way to the host. -/
  | loopYield
  /-- A handler passes interrupts on. -/
  | catchGuard
  /-- An interface declares its variables to the host. -/
  | interfaceVariables
  /-- A call is waited for and given the context. -/
  | call
  /-- Writing to a property goes through a method. -/
  | setter (method : Text)
  deriving DecidableEq, Repr

/-- What the log calls a rule. -/
def Rule.name : Rule → Text
  | loopYield => txt "loop-yield"
  | catchGuard => txt "catch-guard"
  | interfaceVariables => txt "interface"
  | call => txt "call"
  | setter method => method

/-- A rule and the token of the node it was applied to. -/
structure Step where
  rule : Rule
  token : Token

/-- A result with the log of the rules applied on the way to it. -/
structure Logged (α : Type) where
  result : α
  log : List Step := []

instance : Monad Logged where
  pure a := { result := a }
  bind x f :=
    let y := f x.result
    { result := y.result, log := x.log ++ y.log }

/-- Notes that a rule was applied. -/
def Logged.note (rule : Rule) (token : Token) : Logged Unit :=
  { result := (), log := [⟨rule, token⟩] }

end CoScript.Cooperate
