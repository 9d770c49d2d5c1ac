import CoScript.Text.NaturalOrder
import CoScript.Yaml.Resolve

/-!
Writing values as YAML, in blocks of four columns. A text is written plainly where that is read back as
the same text, and quoted otherwise.
-/
namespace CoScript.Yaml

/-- A value that can be written. -/
inductive Value where
  | text (t : Text)
  | flag (b : Bool)
  | texts (ts : List Text)
  | textMap (pairs : List (Text × Text))

namespace Writer

/-- The columns by which a block is indented. -/
def width : Nat := 4

/-- Blanks. -/
def blanks (n : Nat) : Text :=
  List.replicate n (.char ' ')

/-! What a text is made of. -/

/-- Whether a character can be written as it is. -/
def isShown (c : Char) : Bool :=
  let n := c.toNat
  n == 0x0A || (0x20 ≤ n && n ≤ 0x7E) || (0xA0 ≤ n && n ≤ 0xFFFD && n != 0xFEFF)

/-- Whether a text contains two characters next to each other, each of a kind. -/
def hasPair (p q : Char → Bool) : List Char → Bool
  | a :: b :: rest => (p a && q b) || hasPair p q (b :: rest)
  | _ => false

/-- Whether the rest of a text is empty or starts with a blank. -/
def atBlank (rest : List Char) : Bool :=
  rest.head?.all isBlank

/-- Whether a character within a text means something else than itself. `before` is the character in
front of it. -/
def hasIndicator (before : Char) : List Char → Bool
  | [] => false
  | c :: rest =>
    (c == ':' && atBlank rest) || (c == '#' && isBlank before) || hasIndicator c rest

/-- Whether a text starts like something else than a text. -/
def startsSpecial : List Char → Bool
  | [] => false
  | c :: rest =>
    "#,[]\x7b\x7d&*!|>'\"%@`".toList.contains c || ((c == '?' || c == ':' || c == '-') && atBlank rest) ||
      (c == '-' || c == '.') && rest.take 2 = [c, c]

/-- Whether a text has characters that cannot be written as they are; tabs do not count. -/
def hasHidden (cs : List Char) : Bool :=
  cs.any fun c => c != '\t' && !isShown c

/-- Whether a text may be written without quotes, apart from what it would mean. -/
def canBePlain (cs : List Char) : Bool :=
  let isEdge (c : Char) : Bool := c == ' ' || isBreak c
  !(cs.head?.any isEdge || cs.getLast?.any isEdge || cs.any isBreak || cs.contains '\t' ||
    hasHidden cs || startsSpecial cs || hasIndicator (cs.headD ' ') cs.tail)

/-- Whether a text may be written between single quotes. -/
def canBeSingleQuoted (cs : List Char) : Bool :=
  !(hasPair isBreak (· == ' ') cs || hasPair (· == ' ') isBreak cs || cs.contains '\t' || hasHidden cs)

/-- Whether a text may be written as a block. -/
def canBeBlock (cs : List Char) : Bool :=
  !cs.isEmpty && cs.getLast? != some ' ' && !hasPair (· == ' ') isBreak cs && !hasHidden cs

/-- Whether a text is a number in base sixty. -/
def isBase60 (cs : List Char) : Bool :=
  let cs := match cs with
    | '+' :: rest | '-' :: rest => rest
    | _ => cs
  cs.head?.any Char.isDigit && parts (cs.dropWhile fun c => c.isDigit || c == '_')
where
  /-- Whether a text is one or more parts after colons, and a fraction. -/
  parts : List Char → Bool
    | ':' :: a :: b :: rest =>
      if a.isDigit && a ≤ '5' && b.isDigit then ends rest || parts rest
      else a.isDigit && (ends (b :: rest) || parts (b :: rest))
    | [':', a] => a.isDigit
    | _ => false
  /-- Whether a text is nothing or a fraction. -/
  ends : List Char → Bool
    | [] => true
    | c :: rest => c == '.' && rest.all fun d => d.isDigit || d == '_'

/-- The words that once stood for truth values. -/
def oldFlags : List String :=
  ["y", "Y", "yes", "Yes", "YES", "on", "On", "ON", "n", "N", "no", "No", "NO", "off", "Off", "OFF"]

/-- Whether a text without quotes would be read as a text. -/
def meansText (cs : List Char) : Bool :=
  meaningOf true cs = .text && !isBase60 cs && !oldFlags.any (·.toList = cs)

/-! Scalars. -/

/-- The letter that stands for a character after a backslash. -/
def escapeLetter? : Char → Option Char
  | '\x00' => some '0'
  | '\x07' => some 'a'
  | '\x08' => some 'b'
  | '\t' => some 't'
  | '\n' => some 'n'
  | '\x0b' => some 'v'
  | '\x0c' => some 'f'
  | '\r' => some 'r'
  | '\x1b' => some 'e'
  | '"' => some '"'
  | '\\' => some '\\'
  | '\u0085' => some 'N'
  | '\u2028' => some 'L'
  | '\u2029' => some 'P'
  | _ => none

/-- A character between double quotes. -/
def doubleQuotedChar (c : Char) : Text :=
  match escapeLetter? c with
  | some letter => [.char '\\', .char letter]
  | none =>
    if isShown c then [.char c]
    else
      let (mark, digits) := if c.toNat ≤ 0xFF then ('x', 2) else if c.toNat ≤ 0xFFFF then ('u', 4)
        else ('U', 8)
      [.char '\\', .char mark] ++
        (Text.hexadecimal digits c.toNat).map fun g => .char g.toChar.toUpper

/-- A text between double quotes. -/
def doubleQuoted (cs : List Char) : Text :=
  .char '"' :: cs.flatMap doubleQuotedChar ++ [.char '"']

/-- The characters of a text between single quotes, where a quote is written twice and a line starts
at the indentation. -/
def singleQuotedChars (indent : Nat) (afterBreak : Bool) : List Char → Text
  | [] => []
  | c :: rest =>
    if isBreak c then .char c :: singleQuotedChars indent true rest
    else (if afterBreak then blanks indent else []) ++
      (if c = '\'' then txt "''" else [.char c]) ++ singleQuotedChars indent false rest

/-- A text between single quotes. -/
def singleQuoted (indent : Nat) (cs : List Char) : Text :=
  .char '\'' :: singleQuotedChars indent false cs ++ [.char '\'']

/-- The lines of a block, each at the indentation. -/
def blockChars (indent : Nat) (afterBreak : Bool) : List Char → Text
  | [] => []
  | c :: rest =>
    if isBreak c then .char c :: blockChars indent true rest
    else (if afterBreak then blanks indent else []) ++ [.char c] ++ blockChars indent false rest

/-- A text as a block. The header tells the indentation if the text starts with a blank or a line break,
and what to do with line breaks at the end. -/
def block (indent : Nat) (cs : List Char) : Text :=
  let hint := if cs.head?.any fun c => c == ' ' || isBreak c then Text.decimal width else []
  let chomping := match cs.reverse with
    | last :: others =>
      if !isBreak last then txt "-" else if others.head?.all isBreak then txt "+" else []
    | [] => txt "-"
  let start := if cs.head?.any isBreak then [] else txt "\n"
  txt "|" ++ hint ++ chomping ++ start ++ blockChars indent true cs

/-- A text where further lines of it would start at an indentation. A key on one line cannot be a
block. -/
def scalar (isKey : Bool) (indent : Nat) (t : Text) : Text :=
  let cs := t.toChars
  if cs.contains '\n' then (if canBeBlock cs && !isKey then block indent cs else doubleQuoted cs)
  else if !meansText cs then doubleQuoted cs
  else if canBePlain cs then t
  else if canBeSingleQuoted cs then singleQuoted indent cs
  else doubleQuoted cs

/-! Entries. -/

/-- A line; a block that ends with a line break has its own end. -/
def line (t : Text) : Text :=
  if t.getLast?.any fun g => g.holds isBreak then t else t ++ txt "\n"

/-- The number of bytes up to which a key may stand on one line with its value. -/
def keyLimit : Nat := 128

/-- An entry of a mapping at an indentation, whose value is a text. -/
def entry (indent : Nat) (key value : Text) : Text :=
  let value := scalar false (indent + width) value
  if keyLimit < key.byteSize || key.toChars.any isBreak then
    line (blanks indent ++ txt "? " ++ scalar false (indent + width) key) ++
      line (blanks indent ++ txt ": " ++ value)
  else line (blanks indent ++ scalar true indent key ++ txt ": " ++ value)

/-- An entry of a mapping at an indentation. Entries of a mapping within it are written in the natural
order of their keys. -/
def field (indent : Nat) (key : Text) : Value → Text
  | .text t => entry indent key t
  | .flag b => line (blanks indent ++ key ++ txt (if b then ": true" else ": false"))
  | .texts [] => line (blanks indent ++ key ++ txt ": []")
  | .texts ts =>
    line (blanks indent ++ key ++ txt ":") ++
      ts.flatMap fun t => line (blanks (indent + width) ++ txt "- " ++ scalar false (indent + width + 2) t)
  | .textMap [] => line (blanks indent ++ key ++ txt ": \x7b\x7d")
  | .textMap pairs =>
    line (blanks indent ++ key ++ txt ":") ++
      (pairs.mergeSort fun a b => !NaturalOrder.lt b.1 a.1).flatMap fun (k, v) =>
        entry (indent + width) k v

end Writer

end CoScript.Yaml
