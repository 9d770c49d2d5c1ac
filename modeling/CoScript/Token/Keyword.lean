import CoScript.Text.Glyph

/-!
Reserved words of the script language, those the language knows but scripts may not use among them.
-/
namespace CoScript

/-- A reserved word. -/
inductive Keyword where
  | function | let | const | var | true | false | null
  | if | else | return | while | do | for | in | break | continue | switch | case | default
  | new | delete | typeof | void | instanceof | this
  | try | catch | finally | throw | await | as | satisfies
  | class_ | enum | import | export
  deriving DecidableEq, Repr

namespace Keyword

/-- Every reserved word. -/
def all : List Keyword :=
  [.function, .let, .const, .var, .true, .false, .null,
   .if, .else, .return, .while, .do, .for, .in, .break, .continue, .switch, .case, .default,
   .new, .delete, .typeof, .void, .instanceof, .this,
   .try, .catch, .finally, .throw, .await, .as, .satisfies,
   .class_, .enum, .import, .export]

/-- How a reserved word is written. -/
def spelling : Keyword → String
  | function => "function" | .let => "let" | const => "const" | var => "var"
  | true => "true" | false => "false" | null => "null"
  | .if => "if" | .else => "else" | .return => "return" | .while => "while" | .do => "do"
  | .for => "for" | .in => "in" | .break => "break" | .continue => "continue"
  | switch => "switch" | case => "case" | default => "default"
  | new => "new" | delete => "delete" | typeof => "typeof" | void => "void"
  | .instanceof => "instanceof" | this => "this"
  | .try => "try" | .catch => "catch" | .finally => "finally" | throw => "throw"
  | await => "await" | .as => "as" | satisfies => "satisfies"
  | class_ => "class" | enum => "enum" | .import => "import" | .export => "export"

/-- The reserved word that is written so, if any. -/
def ofText? (t : Text) : Option Keyword :=
  all.find? fun k => txt k.spelling = t

/-- The name of a reserved word in token listings: its spelling in capitals. -/
def name (k : Keyword) : String :=
  k.spelling.map Char.toUpper

end Keyword

end CoScript
