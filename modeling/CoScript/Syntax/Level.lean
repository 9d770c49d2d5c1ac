import CoScript.Token.Basic

/-!
Binding strength of operators, shared by reading and printing: an operator takes as operands what
binds more tightly than itself.
-/
namespace CoScript.Level

/-- Weaker than every operator. -/
abbrev lowest : Nat := 1
abbrev comma : Nat := 2
abbrev assignment : Nat := 3
abbrev conditional : Nat := 4
abbrev coalesce : Nat := 5
abbrev logicalOr : Nat := 6
abbrev logicalAnd : Nat := 7
abbrev bitOr : Nat := 8
abbrev bitXor : Nat := 9
abbrev bitAnd : Nat := 10
abbrev equality : Nat := 11
abbrev relation : Nat := 12
abbrev shift : Nat := 13
abbrev sum : Nat := 14
abbrev product : Nat := 15
/-- Exponentiation, which groups to the right. -/
abbrev power : Nat := 16
/-- Operators before their operand. -/
abbrev unary : Nat := 17
/-- Operators after their operand. -/
abbrev suffix : Nat := 18
abbrev call : Nat := 19
abbrev member : Nat := 20
/-- What needs no parentheses anywhere. -/
abbrev atom : Nat := 21

/-- The binding strength of an operator between two operands, by its spelling. -/
def binary? (operator : Text) : Option Nat :=
  (table.find? fun row => row.2.any fun s => txt s = operator).map (·.1)
where
  /-- The operators of each strength. -/
  table : List (Nat × List String) :=
    [(coalesce, ["??"]), (logicalOr, ["||"]), (logicalAnd, ["&&"]),
     (bitOr, ["|"]), (bitXor, ["^"]), (bitAnd, ["&"]),
     (equality, ["==", "!=", "===", "!=="]),
     (relation, ["<", ">", "<=", ">=", "instanceof", "in"]),
     (shift, ["<<", ">>", ">>>"]), (sum, ["+", "-"]), (product, ["*", "/", "%"]), (power, ["**"])]

/-- The binding strength of a token that follows an operand. -/
def ofKind : Token.Kind → Nat
  | .operator o =>
    match o with
    | .comma => comma
    | .assign | .plusAssign | .minusAssign | .asteriskAssign | .slashAssign | .percentAssign
    | .powerAssign | .andAssign | .orAssign | .coalesceAssign | .ampersandAssign | .pipeAssign
    | .caretAssign | .shiftLeftAssign | .shiftRightAssign | .shiftRightZeroAssign => assignment
    | .question => conditional
    | .coalesce => coalesce
    | .or => logicalOr
    | .and => logicalAnd
    | .pipe => bitOr
    | .caret => bitXor
    | .ampersand => bitAnd
    | .equal | .notEqual | .strictEqual | .strictNotEqual => equality
    | .less | .greater | .lessEqual | .greaterEqual => relation
    | .shiftLeft | .shiftRight | .shiftRightZero => shift
    | .plus | .minus => sum
    | .asterisk | .slash | .percent => product
    | .power => power
    | .increment | .decrement | .bang => suffix
    | .parenOpen => call
    | .bracketOpen | .dot | .optionalDot => member
    | _ => lowest
  | .keyword k =>
    match k with
    | .instanceof | .in | .as | .satisfies => relation
    | _ => lowest
  | .template => call
  | _ => lowest

/-- The binding strength of a token that follows a type. -/
def ofTypeKind : Token.Kind → Nat
  | .operator .pipe => 2
  | .operator .ampersand => 3
  | .operator .bracketOpen => 4
  | _ => lowest

/-- The binding strength of unions of types. -/
abbrev union : Nat := 2

/-- The binding strength of intersections of types. -/
abbrev intersection : Nat := 3

end CoScript.Level
