import CoScript.Parse.Fault
import CoScript.Syntax.Level
import CoScript.Syntax.Node
import CoScript.Token.Scanner

/-!
Parsers. A parser looks at the current token and at the one ahead, moves on, and records what is
wrong. When it fails, the place it got to is kept, because recovery starts there.
-/
namespace CoScript.Parse

/-- A fault and the token it is reported at. -/
structure Complaint where
  token : Token
  fault : Fault
  deriving DecidableEq, Repr

/-- Where a parser stands. -/
structure State where
  current : Token
  /-- The tokens ahead. When none is left, the end token is ahead. -/
  upcoming : List Token
  /-- The end token, as it is met again and again. -/
  ending : Token
  /-- Whether `in` is no operator, as in the head of a loop. -/
  noIn : Bool := false
  complaints : List Complaint := []
  deriving Repr

namespace State

/-- The token ahead. -/
def peek (s : State) : Token :=
  s.upcoming.headD s.ending

/-- Moves on by one token. -/
def advance (s : State) : State :=
  { s with current := s.peek, upcoming := s.upcoming.tail }

/-- Records a fault. The last one recorded says that there are too many. -/
def complain (s : State) (token : Token) (fault : Fault) : State :=
  if faultLimit < s.complaints.length then s
  else
    let fault := if s.complaints.length = faultLimit then .tooMany else fault
    { s with complaints := s.complaints ++ [⟨token, fault⟩] }

/-- The state before the first token of a script. -/
def start (source : Text) : State :=
  match Token.scan source with
  | [] => { current := {}, upcoming := [], ending := { kind := .eof } }
  | first :: rest =>
    let last := (first :: rest).getLast (List.cons_ne_nil first rest)
    { current := first, upcoming := rest, ending := { last with newlineBefore := false } }

end State

end Parse

/-- A parser: gives a result or fails, and moves on either way. -/
def Parse (α : Type) : Type :=
  Parse.State → Option α × Parse.State

namespace Parse

instance : Monad Parse where
  pure a := fun s => (some a, s)
  bind p f := fun s =>
    match p s with
    | (some a, s) => f a s
    | (none, s) => (none, s)

/-- The current token. -/
def current : Parse Token := fun s => (some s.current, s)

/-- The token ahead. -/
def peek : Parse Token := fun s => (some s.peek, s)

/-- Moves on by one token. -/
def advance : Parse Unit := fun s => (some (), s.advance)

/-- Records a fault at a token and fails. -/
def reject {α : Type} (token : Token) (fault : Fault) : Parse α := fun s =>
  (none, s.complain token fault)

/-- Whether the current token is of a kind. -/
def currentIs (k : Token.Kind) : Parse Bool := fun s => (some (s.current.is k), s)

/-- Whether the token ahead is of a kind. -/
def peekIs (k : Token.Kind) : Parse Bool := fun s => (some (s.peek.is k), s)

/-- Moves on to the token ahead if it is of a kind, and tells whether it was. -/
def skip (k : Token.Kind) : Parse Bool := fun s =>
  if s.peek.is k then (some true, s.advance) else (some false, s)

/-- Moves on to the token ahead, which has to be of a kind. -/
def expect (k : Token.Kind) : Parse Unit := fun s =>
  if s.peek.is k then (some (), s.advance) else (none, s.complain s.peek (.expected k s.peek))

/-- Moves on to a closing angle bracket ahead. One that is stuck together with what follows is split
off, so that nested type arguments close one by one. -/
def expectAngleClose : Parse Unit := fun s =>
  let t := s.peek
  match t.kind with
  | .operator .greater => (some (), s.advance)
  | .operator .shiftRight | .operator .shiftRightZero | .operator .greaterEqual
  | .operator .shiftRightAssign | .operator .shiftRightZeroAssign =>
    let rest := t.literal.drop 1
    let kind : Token.Kind := match Operator.ofText? rest with
      | some o => .operator o
      | none => .illegal
    let angle := txt ">"
    (some (), { s with
      current := { t with
        kind := .operator .greater, literal := angle, raw := angle, stop := t.start + 1 }
      upcoming := { t with
        kind := kind, literal := rest, raw := rest, column := t.column + 1, start := t.start + 1,
        newlineBefore := false } :: s.upcoming.tail })
  | _ => (none, s.complain t (.expected (.operator .greater) t))

/-- Runs a parser and goes on whether it failed or not. -/
def attempt {α : Type} (p : Parse α) : Parse (Option α) := fun s =>
  match p s with
  | (r, s) => (some r, s)

/-- Runs a parser with `in` as an operator, and restores what was the case before. -/
def allowIn {α : Type} (p : Parse α) : Parse α := fun s =>
  match p { s with noIn := false } with
  | (r, s') => (r, { s' with noIn := s.noIn })

/-- Runs a parser with `in` as no operator; afterwards it is one. -/
def forbidIn {α : Type} (p : Parse α) : Parse α := fun s =>
  match p { s with noIn := true } with
  | (r, s') => (r, { s' with noIn := false })

/-- Runs a parser and tells whether it recorded a fault. -/
def watch {α : Type} (p : Parse α) : Parse (α × Bool) := fun s =>
  match p s with
  | (some a, s') => (some (a, s.complaints.length < s'.complaints.length), s')
  | (none, s') => (none, s')

/-- Whether a parser would answer yes without recording a fault. The parser moves nowhere. -/
def foresee (p : Parse Bool) : Parse Bool := fun s =>
  match p s with
  | (r, s') =>
    (some (r == some true && s'.complaints.length == s.complaints.length), s)

/-- Whether a statement may end before the token ahead. -/
def statementEnds : Parse Bool := do
  let t ← peek
  return t.is (.operator .semicolon) || t.is (.operator .braceClose) || t.is .eof || t.newlineBefore

/-- Finishes a statement. A semicolon may be left out before a line break, a closing brace and the
end of the input. -/
def finishStatement : Parse Unit := do
  if ← skip (.operator .semicolon) then return
  if ← statementEnds then return
  let t ← peek
  reject t (.expectedSemicolon t)

/-- Skips the rest of a broken statement: up to a semicolon, a line break, a closing brace or the end
of the input. -/
def recoverFrom (current : Token) : List Token → Token × List Token
  | [] => (current, [])
  | t :: rest =>
    if current.is .eof || current.is (.operator .semicolon) || t.is (.operator .braceClose) ||
        t.is .eof || t.newlineBefore then (current, t :: rest)
    else recoverFrom t rest

/-- Skips the rest of a broken statement. -/
def recover : Parse Unit := fun s =>
  match recoverFrom s.current s.upcoming with
  | (current, upcoming) => (some (), { s with current := current, upcoming := upcoming })

/-- The binding strength of the token ahead after an operand. Some operators must stand on the same
line, and `in` may be forbidden. -/
def peekLevel : Parse Nat := fun s =>
  let t := s.peek
  let barred := match t.kind with
    | .operator .increment | .operator .decrement | .operator .bang
    | .keyword .as | .keyword .satisfies => t.newlineBefore
    | .keyword .in => s.noIn
    | _ => false
  (some (if barred then Level.lowest else Level.ofKind t.kind), s)

end Parse

end CoScript
