import CoScript.Yaml.Fault

/-!
Reading the characters of a YAML text one after another, with the place kept up to date.
-/
namespace CoScript.Yaml

/-- Whether a character is blank. -/
def isBlank (c : Char) : Bool :=
  c == ' ' || c == '\t'

/-- Whether a character ends a line. -/
def isBreak (c : Char) : Bool :=
  c == '\r' || c == '\n' || c == '\u0085' || c == '\u2028' || c == '\u2029'

/-- Whether a character can be part of the name of an anchor. -/
def isNameChar (c : Char) : Bool :=
  c.isAlphanum || c == '_' || c == '-'

/-- Whether a character may occur in a text at all. -/
def isPrintable (c : Char) : Bool :=
  let n := c.toNat
  n == 0x09 || n == 0x0A || n == 0x0D || (0x20 ≤ n && n ≤ 0x7E) || n == 0x85 ||
    (0xA0 ≤ n && n ≤ 0xFFFD) || 0x10000 ≤ n

/-- What is left of a text, and the place where it starts. -/
structure Cursor where
  rest : List Char
  mark : Mark := {}
  deriving Repr

namespace Cursor

/-- Whether the next character is of a kind. -/
def at? (c : Cursor) (p : Char → Bool) : Bool :=
  c.rest.head?.any p

/-- Whether the next character is the given one. -/
def isAt (c : Cursor) (x : Char) : Bool :=
  c.rest.head? == some x

/-- Whether the text is over. -/
def isOver (c : Cursor) : Bool :=
  c.rest.isEmpty

/-- Whether the text goes on with a line break. -/
def atBreak (c : Cursor) : Bool :=
  c.at? isBreak

/-- Whether a text is over or goes on with a line break. -/
def endsLine (rest : List Char) : Bool :=
  rest.head?.all isBreak

/-- Whether a text is over or goes on with a blank or a line break. -/
def endsWord (rest : List Char) : Bool :=
  rest.head?.all fun c => isBlank c || isBreak c

/-- Moves on by some characters, none of which is a line break. -/
def skip (c : Cursor) (n : Nat) : Cursor where
  rest := c.rest.drop n
  mark := { c.mark with index := c.mark.index + n, column := c.mark.column + n }

/-- Moves on over a line break, if there is one. A carriage return and a line feed are one break. -/
def skipLine (c : Cursor) : Cursor :=
  match c.rest with
  | '\r' :: '\n' :: rest => ⟨rest, ⟨c.mark.index + 2, c.mark.line + 1, 0⟩⟩
  | b :: rest => if isBreak b then ⟨rest, ⟨c.mark.index + 1, c.mark.line + 1, 0⟩⟩ else c
  | [] => c

/-- The line break at the cursor, as it counts in a text: separators of lines and paragraphs are kept,
and all other breaks are line feeds. -/
def breakText (c : Cursor) : List Char :=
  match c.rest with
  | b :: _ => if b == '\u2028' || b == '\u2029' then [b] else if isBreak b then ['\n'] else []
  | [] => []

/-- Moves on over characters of a kind. -/
def skipWhile (c : Cursor) (p : Char → Bool) : Cursor :=
  c.skip (c.rest.takeWhile p).length

/-- Whether a line starts here with three given characters and nothing or a blank after them. -/
def atIndicator (c : Cursor) (x : Char) : Bool :=
  c.mark.column = 0 && c.rest.take 3 = [x, x, x] && endsWord (c.rest.drop 3)

/-- Whether a document starts or ends here. -/
def atDocument (c : Cursor) : Bool :=
  c.atIndicator '-' || c.atIndicator '.'

end Cursor

end CoScript.Yaml
