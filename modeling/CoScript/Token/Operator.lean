import CoScript.Text.Glyph

/-!
Operators and punctuation of the script language. Where several spellings fit, the longest one is
meant, so `all` lists longer spellings first.
-/
namespace CoScript

/-- An operator or a punctuation mark. -/
inductive Operator where
  | assign | plus | minus | bang | asterisk | slash | percent | power
  | tilde | ampersand | caret | pipe
  | less | greater | lessEqual | greaterEqual
  | equal | notEqual | strictEqual | strictNotEqual
  | shiftLeft | shiftRight | shiftRightZero
  | and | or | coalesce | increment | decrement
  | dot | ellipsis | optionalDot | question | arrow
  | plusAssign | minusAssign | asteriskAssign | slashAssign | percentAssign | powerAssign
  | andAssign | orAssign | coalesceAssign | ampersandAssign | pipeAssign | caretAssign
  | shiftLeftAssign | shiftRightAssign | shiftRightZeroAssign
  | comma | semicolon | colon | parenOpen | parenClose | braceOpen | braceClose
  | bracketOpen | bracketClose | at
  deriving DecidableEq, Repr

namespace Operator

/-- How an operator is written. -/
def spelling : Operator → String
  | assign => "=" | plus => "+" | minus => "-" | bang => "!" | asterisk => "*" | slash => "/"
  | percent => "%" | power => "**" | tilde => "~" | ampersand => "&" | caret => "^" | pipe => "|"
  | less => "<" | greater => ">" | lessEqual => "<=" | greaterEqual => ">="
  | equal => "==" | notEqual => "!=" | strictEqual => "===" | strictNotEqual => "!=="
  | shiftLeft => "<<" | shiftRight => ">>" | shiftRightZero => ">>>"
  | and => "&&" | or => "||" | coalesce => "??" | increment => "++" | decrement => "--"
  | dot => "." | ellipsis => "..." | optionalDot => "?." | question => "?" | arrow => "=>"
  | plusAssign => "+=" | minusAssign => "-=" | asteriskAssign => "*=" | slashAssign => "/="
  | percentAssign => "%=" | powerAssign => "**=" | andAssign => "&&=" | orAssign => "||="
  | coalesceAssign => "??=" | ampersandAssign => "&=" | pipeAssign => "|=" | caretAssign => "^="
  | shiftLeftAssign => "<<=" | shiftRightAssign => ">>=" | shiftRightZeroAssign => ">>>="
  | comma => "," | semicolon => ";" | colon => ":" | parenOpen => "(" | parenClose => ")"
  | braceOpen => "\x7b" | braceClose => "\x7d" | bracketOpen => "[" | bracketClose => "]"
  | .at => "@"

/-- Every operator, longer spellings first. -/
def all : List Operator :=
  [.shiftRightZeroAssign,
   .strictEqual, .strictNotEqual, .shiftRightZero, .powerAssign, .ellipsis,
   .shiftLeftAssign, .shiftRightAssign, .andAssign, .orAssign, .coalesceAssign,
   .equal, .notEqual, .lessEqual, .greaterEqual, .arrow, .increment, .decrement, .power,
   .shiftLeft, .shiftRight, .and, .or, .coalesce, .optionalDot,
   .plusAssign, .minusAssign, .asteriskAssign, .slashAssign, .percentAssign,
   .ampersandAssign, .pipeAssign, .caretAssign,
   .assign, .plus, .minus, .bang, .asterisk, .slash, .percent, .tilde, .ampersand,
   .caret, .pipe, .less, .greater, .dot, .question,
   .comma, .semicolon, .colon, .parenOpen, .parenClose, .braceOpen, .braceClose,
   .bracketOpen, .bracketClose, .at]

/-- The operator that is written exactly so, if any. -/
def ofText? (t : Text) : Option Operator :=
  all.find? fun o => txt o.spelling = t

/-- The longest operator a text begins with, and what follows it. A question mark and a point before
a digit are two operators, as in `a?.5:b`. -/
def leading? (t : Text) : Option (Operator × Text) :=
  all.findSome? fun o =>
    match Text.after? (txt o.spelling) t with
    | none => none
    | some rest =>
      if o = .optionalDot && (match rest with | g :: _ => g.holds Char.isDigit | [] => false) then none
      else some (o, rest)

end Operator

end CoScript
